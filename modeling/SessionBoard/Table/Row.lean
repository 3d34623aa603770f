import SessionBoard.Session.Record
import SessionBoard.Uptime

namespace SessionBoard

/-- One line of the table: a session and the display of its uptime. -/
structure SessionRow where
  record : SessionRecord
  uptime : LiveTime
  deriving DecidableEq, Repr, Inhabited

namespace SessionRow

def key (row : SessionRow) : SessionId := row.record.id

/-- The text of every column, in display order. -/
def cells (row : SessionRow) : List (List Char) :=
  [row.record.id.text.toList, row.record.protocol.toList, row.record.state.label.toList,
    row.record.host.toList, row.record.origin.toList, row.uptime.text]

end SessionRow

/-- What rows need from their table to be built or refreshed. -/
structure RowContext where
  now : Clock
  tick : Nat
  nextGeneration : Nat := 1
  deriving DecidableEq, Repr, Inhabited

namespace RowContext

def liveTime (context : RowContext) (startedAt : Int) : LiveTime × RowContext :=
  (.start startedAt context.nextGeneration context.tick context.now,
    { context with nextGeneration := context.nextGeneration + 1 })

end RowContext

namespace SessionRow

def create (record : SessionRecord) (context : RowContext) : SessionRow × RowContext :=
  let (uptime, context) := context.liveTime record.startedAt
  (⟨record, uptime⟩, context)

/-- Takes over a record and says whether it differs. The display is rebuilt only for a new start,
since rebuilding restarts its cadence. -/
def update (row : SessionRow) (record : SessionRecord) (context : RowContext) :
    (SessionRow × Bool) × RowContext :=
  let changed := row.record != record
  if row.uptime.startedAt = record.startedAt then ((⟨record, row.uptime⟩, changed), context)
  else
    let (uptime, context) := context.liveTime record.startedAt
    ((⟨record, uptime⟩, changed), context)

end SessionRow

end SessionBoard
