namespace SessionBoard.Terminal

inductive Command
  /-- Raw input: keys arrive one by one and are not echoed. -/
  | raw (on : Bool)
  | mode (on : Bool) (number : Nat)
  deriving DecidableEq, Repr

/-- The mode that shows another screen and keeps the first one for later. -/
def alternateScreen : Nat := 1049

/-- The modes that report the mouse: its buttons, its drags, its moves, and two ways to write the
coordinates that reach far. -/
def mouseModes : List Nat := [1000, 1002, 1003, 1015, 1006]

def captureMouse : List Command := mouseModes.map (.mode true)

/-- The mouse is let go in the reverse order. -/
def releaseMouse : List Command := mouseModes.reverse.map (.mode false)

/-- Everything before the first frame. -/
def setUp : List Command := [.raw true, .mode true alternateScreen] ++ captureMouse

/-- Gives the terminal back as it was. The mouse goes first, while the input is still raw. -/
def restore : List Command := releaseMouse ++ [.mode false alternateScreen, .raw false]

/-- Everything after the last frame. The mouse is let go when the loop ends, and once more with all
else, which may come without the loop's end. -/
def tearDown : List Command := releaseMouse ++ restore

def isRaw (commands : List Command) : Bool :=
  commands.foldl (fun raw command => match command with
    | .raw on => on
    | .mode _ _ => raw) false

def modeSwitches (commands : List Command) : List (Bool × Nat) :=
  commands.filterMap fun
    | .raw _ => none
    | .mode on number => some (on, number)

end SessionBoard.Terminal
