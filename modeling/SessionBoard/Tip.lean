import SessionBoard.Header

namespace SessionBoard

/-- The hint in place of an empty table, if one applies. Nothing is said while the first attempt to connect is
going on. -/
def tip? (activity : Activity) (isEmpty : Bool) : Option String :=
  match activity, isEmpty with
  | .online, true => some "No active sessions"
  | .offline, true => some "Offline, waiting for server"
  | _, _ => none

def drawTip (text : String) (width height : Nat) : List (List Cell) :=
  fillArea width height <| List.replicate (height / 2) (blankLine width)
    ++ [drawLine width (.ofColor .darkGray) true [{ text := text.toList }]]

end SessionBoard
