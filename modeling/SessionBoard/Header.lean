import SessionBoard.Paint
import SessionBoard.Session.Record
import SessionBoard.Store.Event

namespace SessionBoard

inductive Activity
  | connecting
  | online
  | offline
  deriving DecidableEq, Repr, Inhabited

namespace Activity

def label : Activity → String
  | .connecting => "Connecting…"
  | .online => "● Online"
  | .offline => "● Offline"

def color : Activity → Color
  | .connecting => .darkGray
  | .online => .green
  | .offline => .red

end Activity

/-- The color of a state, in the header as in the table. -/
def SessionState.color : SessionState → Color
  | .waiting => .yellow
  | .connecting => .cyan
  | .established => .green
  | .unknown _ => .darkGray

/-- The header: whether the board is connected, and how many sessions are in which state. -/
structure HeaderState where
  counts : StateCounts := {}
  activity : Activity := .connecting
  deriving DecidableEq, Repr, Inhabited

namespace HeaderState

def after (header : HeaderState) : StoreEvent → HeaderState
  | .update snapshot => { header with counts := .ofRecords snapshot }
  | .active => { header with activity := .online }
  | .inactive => { header with activity := .offline }

/-- Takes in an event of the store and says whether anything changed. -/
def apply (header : HeaderState) (event : StoreEvent) : HeaderState × Bool :=
  (header.after event, header.after event != header)

def counterSpans (counts : StateCounts) : List SessionState → List Span
  | [] => []
  | [state] => counter state
  | state :: next :: rest =>
    counter state ++ { text := ", ".toList } :: counterSpans counts (next :: rest)
where
  counter (state : SessionState) : List Span :=
    [⟨state.label.toList, .ofColor state.color⟩,
      { text := (": " ++ toString (counts.get state)).toList }]

def spans (header : HeaderState) : List Span :=
  ⟨"neckview".toList, { bold := true }⟩ :: { text := "  ".toList } ::
    ⟨header.activity.label.toList, .ofColor header.activity.color⟩ :: { text := "  ".toList } ::
    counterSpans header.counts SessionState.counted

end HeaderState

end SessionBoard
