namespace SessionBoard

/-- The stable name of a session, compared as text. -/
structure SessionId where
  text : String
  deriving DecidableEq, Repr, Inhabited

inductive SessionState
  | waiting
  | connecting
  | established
  /-- A code without a meaning here. -/
  | unknown (code : Int)
  deriving DecidableEq, Repr, Inhabited

namespace SessionState

def ofCode (code : Int) : SessionState :=
  if code = 0 then .waiting
  else if code = 1 then .connecting
  else if code = 2 then .established
  else .unknown code

def code : SessionState → Int
  | .waiting => 0
  | .connecting => 1
  | .established => 2
  | .unknown code => code

def label : SessionState → String
  | .waiting => "Waiting"
  | .connecting => "Connecting"
  | .established => "Established"
  | .unknown _ => "Unknown"

/-- The states with a counter of their own, in display order. -/
def counted : List SessionState := [.waiting, .connecting, .established]

end SessionState

/-- One tracked connection as the server lists it. -/
structure SessionRecord where
  id : SessionId
  protocol : String
  state : SessionState
  host : String
  origin : String
  /-- Milliseconds of the epoch at which the session began. -/
  startedAt : Int
  deriving DecidableEq, Repr, Inhabited

abbrev Snapshot := List SessionRecord

structure StateCounts where
  waiting : Nat := 0
  connecting : Nat := 0
  established : Nat := 0
  unknown : Nat := 0
  deriving DecidableEq, Repr, Inhabited

namespace StateCounts

def get (counts : StateCounts) : SessionState → Nat
  | .waiting => counts.waiting
  | .connecting => counts.connecting
  | .established => counts.established
  | .unknown _ => counts.unknown

def add (counts : StateCounts) : SessionState → StateCounts
  | .waiting => { counts with waiting := counts.waiting + 1 }
  | .connecting => { counts with connecting := counts.connecting + 1 }
  | .established => { counts with established := counts.established + 1 }
  | .unknown _ => { counts with unknown := counts.unknown + 1 }

def ofRecords (records : List SessionRecord) : StateCounts :=
  records.foldl (fun counts record => counts.add record.state) {}

def summary (counts : StateCounts) : String :=
  ", ".intercalate (SessionState.counted.map fun state =>
    state.label ++ ": " ++ toString (counts.get state))

end StateCounts

end SessionBoard
