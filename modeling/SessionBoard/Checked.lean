namespace SessionBoard

/-- A bound that was broken: an index at or past the end, a slice that ends before it starts or past the end, a
difference below zero, a text cut inside a character or past its end, or a sum past a last value. -/
inductive Breach
  | index
  | slice
  | difference
  | boundary
  | overflow
  deriving DecidableEq, Repr

/-- Partial operations refuse the arguments that they have no answer for, so that an answer means that no bound
was broken on the way. -/
abbrev Checked (α : Type) := Except Breach α

namespace Checked

def sub (a b : Nat) : Checked Nat :=
  if b ≤ a then .ok (a - b) else .error .difference

def get {α : Type} (items : List α) (index : Nat) : Checked α :=
  match items[index]? with
  | some item => .ok item
  | none => .error .index

/-- The items from `start` up to but not including `stop`. -/
def slice {α : Type} (items : List α) (start stop : Nat) : Checked (List α) :=
  if start ≤ stop ∧ stop ≤ items.length then .ok ((items.drop start).take (stop - start))
  else .error .slice

end Checked

end SessionBoard
