namespace SessionBoard

/-- A reading of the two clocks that the board needs, in milliseconds. The first one schedules ticks, and start
times are measured against the wall clock, which counts from the epoch. -/
structure Clock where
  instant : Nat
  wall : Int
  deriving DecidableEq, Repr, Inhabited

def Clock.advanced (clock : Clock) (elapsed : Nat) : Clock :=
  { instant := clock.instant + elapsed, wall := clock.wall + elapsed }

end SessionBoard
