import SessionBoard.Session.Record

namespace SessionBoard

/-- What the store tells its subscribers: a new full snapshot, that the push channel is live, or that it failed
or closed. -/
inductive StoreEvent
  | update (snapshot : Snapshot)
  | active
  | inactive
  deriving DecidableEq, Repr

/-- The health of the push channel as last reported. -/
inductive Connectivity
  | unknown
  | active
  | inactive
  deriving DecidableEq, Repr, Inhabited

def Connectivity.label : Connectivity → String
  | .unknown => "unknown"
  | .active => "active"
  | .inactive => "inactive"

end SessionBoard
