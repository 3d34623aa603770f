import SessionBoard.Clock

namespace SessionBoard

namespace Uptime

/-- Milliseconds between two recomputations, well below a second so that the display never lags far
behind. -/
def defaultTick : Nat := 100

/-- Stands between two groups: a thin space. -/
def divider : Char := '\u2009'

def triples : List Char → List (List Char)
  | a :: b :: c :: rest => [a, b, c] :: triples rest
  | _ => []

/-- The decimal digits in groups of three from the right. Only the first group may be shorter. -/
def digitGroups (seconds : Nat) : List (List Char) :=
  let digits := Nat.toDigits 10 seconds
  let head := (digits.length - 1) % 3 + 1
  digits.take head :: triples (digits.drop head)

def padGroup (group : List Char) : List Char :=
  List.replicate (3 - group.length) '0' ++ group

/-- Groups filled up with groups of zeros on the left. -/
def paddedGroups (seconds atLeast : Nat) : List (List Char) :=
  match digitGroups seconds with
  | [] => []
  | first :: rest =>
    let missing := atLeast - (rest.length + 1)
    if missing = 0 then first :: rest
    else ['0'] :: List.replicate (missing - 1) ['0', '0', '0'] ++ padGroup first :: rest

/-- The largest difference of two signed readings of 64 bits. -/
def maxElapsed : Int := 0x7fffffffffffffff

/-- Whole seconds from the start to now, none before the start. -/
def elapsedSeconds (startedAt wall : Int) : Nat :=
  (min (wall - startedAt) maxElapsed).toNat / 1000

/-- The positions at which the new groups differ from the old ones, positions that are new
included. -/
def changedFrom (index : Nat) : (old new : List (List Char)) → List Nat
  | _, [] => []
  | [], _ :: rest => index :: changedFrom (index + 1) [] rest
  | old :: olds, new :: news =>
    if old = new then changedFrom (index + 1) olds news
    else index :: changedFrom (index + 1) olds news

end Uptime

open Uptime

/-- The display of the elapsed time of a session: whole seconds in groups of three digits, recomputed at a
cadence of its own and never shown with fewer groups than before. -/
structure LiveTime where
  startedAt : Int
  /-- Tells one display from a later one of the same session. -/
  generation : Nat
  groups : List (List Char)
  interval : Nat
  nextDue : Nat
  deriving DecidableEq, Repr, Inhabited

namespace LiveTime

def start (startedAt : Int) (generation interval : Nat) (now : Clock) : LiveTime where
  startedAt := startedAt
  generation := generation
  groups := digitGroups (elapsedSeconds startedAt now.wall)
  interval := interval
  nextDue := now.instant + interval

def text (display : LiveTime) : List Char :=
  List.intercalate [divider] display.groups

/-- The next due instant: an interval later, or an interval from now when that is past too. -/
def rearmed (display : LiveTime) (instant : Nat) : Nat :=
  if display.nextDue + display.interval ≤ instant then instant + display.interval
  else display.nextDue + display.interval

/-- Recomputes the display if that is due, and says which groups changed. -/
def poll (display : LiveTime) (now : Clock) : LiveTime × Option (List Nat) :=
  if now.instant < display.nextDue then (display, none)
  else
    let groups :=
      paddedGroups (elapsedSeconds display.startedAt now.wall) display.groups.length
    ({ display with groups := groups, nextDue := display.rearmed now.instant },
      some (changedFrom 0 display.groups groups))

end LiveTime

end SessionBoard
