namespace SessionBoard

structure Area where
  x : Nat
  y : Nat
  width : Nat
  height : Nat
  deriving DecidableEq, Repr, Inhabited

def Area.bottom (area : Area) : Nat := area.y + area.height

structure Screen where
  header : Area
  titles : Area
  body : Area
  status : Area
  deriving DecidableEq, Repr, Inhabited

namespace Screen

/-- The areas of a screen: a header, the column titles, the table body and a status line, from top to bottom.
Drawing and the mouse both go by them. When lines are short, the header comes first, then the titles, then the
status line. -/
def ofSize (width height : Nat) : Screen :=
  let header : Area := ⟨0, 0, width, min 1 height⟩
  let titles : Area := ⟨0, header.bottom, width, min 1 (height - header.bottom)⟩
  let statusHeight := min 1 (height - titles.bottom)
  let body : Area := ⟨0, titles.bottom, width, height - titles.bottom - statusHeight⟩
  ⟨header, titles, body, ⟨0, body.bottom, width, statusHeight⟩⟩

/-- The line of the body at a row of the screen. -/
def bodyLineAt (screen : Screen) (y : Nat) : Option Nat :=
  if screen.body.y ≤ y ∧ y < screen.body.bottom then some (y - screen.body.y) else none

end Screen

end SessionBoard
