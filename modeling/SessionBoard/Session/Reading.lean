import SessionBoard.Json.Typed
import SessionBoard.Session.Record

namespace SessionBoard

open Json

/-- An id is an integer of 64 bits or a string. The whole value is read before its type counts, with
`depth` levels of nesting left. -/
def SessionId.read (depth : Nat) : Reader SessionId := fun octets =>
  match skipBlank octets with
  | [] => .error .unfinished
  | octet :: rest =>
    if octet = 0x22 then do
      let (text, rest) ← stringAfterQuote rest
      return (⟨text⟩, rest)
    else if octet = 0x2d then readNumber true rest >>= ofNumber
    else if isDigit octet then readNumber false (octet :: rest) >>= ofNumber
    else do
      let _ ← skipChecked depth (octet :: rest)
      throw .mismatched
where
  ofNumber : Number × Octets → Except Fault (SessionId × Octets)
    | (.integer value, rest) => .ok (⟨toString value⟩, rest)
    | (.real, _) => .error .mismatched

def SessionState.read : Reader SessionState := fun octets => do
  let (code, rest) ← readSigned octets
  return (.ofCode code, rest)

namespace SessionRecord

/-- The levels of nesting left inside a record: the list and the record took one each. -/
def depthInside : Nat := maxDepth - 2

/-- What is known of a record while its members are read. -/
structure Draft where
  id : Option SessionId := none
  protocol : Option String := none
  state : Option SessionState := none
  host : Option String := none
  origin : Option String := none
  startedAt : Option Int := none

def Draft.record? (draft : Draft) : Option SessionRecord := do
  return {
    id := ← draft.id
    protocol := ← draft.protocol
    state := ← draft.state
    host := ← draft.host
    origin := ← draft.origin
    startedAt := ← draft.startedAt }

/-- Reads the value of a member that may come only once. -/
def readOnce {α : Type} (known : Option α) (value : Reader α) : Reader α := fun octets =>
  if known.isSome then .error .mismatched else colon octets >>= value

def Draft.readMember (draft : Draft) (name : String) : Reader Draft := fun octets => do
  match name with
  | "id" =>
    let (id, rest) ← readOnce draft.id (SessionId.read depthInside) octets
    return ({ draft with id := some id }, rest)
  | "proto" =>
    let (protocol, rest) ← readOnce draft.protocol readString octets
    return ({ draft with protocol := some protocol }, rest)
  | "state" =>
    let (state, rest) ← readOnce draft.state SessionState.read octets
    return ({ draft with state := some state }, rest)
  | "host" =>
    let (host, rest) ← readOnce draft.host readString octets
    return ({ draft with host := some host }, rest)
  | "from" =>
    let (origin, rest) ← readOnce draft.origin readString octets
    return ({ draft with origin := some origin }, rest)
  | "timestamp" =>
    let (startedAt, rest) ← readOnce draft.startedAt readSigned octets
    return ({ draft with startedAt := some startedAt }, rest)
  | _ =>
    let rest ← colon octets
    let rest ← skipUnused rest
    return (draft, rest)

def readMembers : (fuel : Nat) → Draft → Bool → Reader SessionRecord
  | 0, _, _, _ => .error .malformed
  | fuel + 1, draft, first, octets => do
    match ← turn 0x7d first octets with
    | .close rest =>
      match draft.record? with
      | some record => return (record, rest)
      | none => throw .mismatched
    | .item rest =>
      let (name, rest) ← memberName rest
      let (draft, rest) ← draft.readMember name rest
      readMembers fuel draft false rest

/-- The next of the fields that make up a record as an array. -/
def readField {α : Type} (first : Bool) (value : Reader α) : Reader α := fun octets => do
  match ← turn 0x5d first octets with
  | .close _ => throw .mismatched
  | .item rest => value rest

def readFields : Reader SessionRecord := fun octets => do
  let (id, rest) ← readField true (SessionId.read depthInside) octets
  let (protocol, rest) ← readField false readString rest
  let (state, rest) ← readField false SessionState.read rest
  let (host, rest) ← readField false readString rest
  let (origin, rest) ← readField false readString rest
  let (startedAt, rest) ← readField false readSigned rest
  match ← turn 0x5d false rest with
  | .close rest => return ({ id, protocol, state, host, origin, startedAt }, rest)
  | .item _ => throw .malformed

def read : Reader SessionRecord := fun octets =>
  match skipBlank octets with
  | [] => .error .unfinished
  | octet :: rest =>
    if octet = 0x7b then readMembers (enough rest) {} true rest
    else if octet = 0x5b then readFields rest
    else .error (refusal (octet :: rest))

/-- Parses a session list. A record is an object with six members, in any order and with any others between
them, or the array of its six fields. -/
def parseList (octets : Octets) : Except Fault (List SessionRecord) :=
  readWhole (readArray read) octets

end SessionRecord

end SessionBoard
