namespace SessionBoard

inductive Key
  | char (char : Char)
  | up
  | down
  | pageUp
  | pageDown
  | home
  | bottom
  | escape
  | other
  deriving DecidableEq, Repr, Inhabited

inductive KeyAction
  | press
  | again
  | release
  deriving DecidableEq, Repr, Inhabited

structure KeyEvent where
  key : Key
  control : Bool := false
  action : KeyAction := .press
  deriving DecidableEq, Repr, Inhabited

inductive MouseButton
  | left
  | right
  | middle
  deriving DecidableEq, Repr, Inhabited

inductive MouseAction
  | down (button : MouseButton)
  | up (button : MouseButton)
  | drag (button : MouseButton)
  | moved
  | scrollUp
  | scrollDown
  | scrollLeft
  | scrollRight
  deriving DecidableEq, Repr, Inhabited

structure MouseEvent where
  action : MouseAction
  x : Nat
  y : Nat
  deriving DecidableEq, Repr, Inhabited

/-- What the reducer asks its runner to do. -/
inductive Effect
  | quit
  | refresh
  | copy (text : List Char)
  deriving DecidableEq, Repr

end SessionBoard
