import Mathlib.Algebra.Group.Int.Defs
import SessionBoard.Proofs.Reach
import SessionBoard.Proofs.Uptime.Digits

namespace SessionBoard.LiveTime

open Uptime (Numeral groupsFor numeral_digitGroups numeral_paddedGroups length_digitGroups
  length_paddedGroups changedFrom_eq elapsedSeconds maxElapsed paddedGroups changedFrom)

variable {display display' : LiveTime} {startedAt : Int} {now created : Clock} {readings : List Int}

/-- The whole seconds from one reading of 64 bits to another one. There are none backwards, and the
difference is cut off at the largest number of 64 bits. -/
def secondsBetween (startedAt wall : Int) : Nat :=
  (min (max 0 (wall - startedAt)) (2 ^ 63 - 1) / 1000).toNat

theorem elapsedSeconds_eq (startedAt wall : Int) :
    elapsedSeconds startedAt wall = secondsBetween startedAt wall := by
  have most : maxElapsed = 2 ^ 63 - 1 := rfl
  rw [elapsedSeconds, secondsBetween, most]
  omega

theorem poll_of_early (early : now.instant < display.nextDue) : display.poll now = (display, none) :=
  if_pos early

theorem poll_of_due (due : display.nextDue ≤ now.instant) : display.poll now =
    ({ display with
        groups := paddedGroups (elapsedSeconds display.startedAt now.wall) display.groups.length
        nextDue := display.rearmed now.instant },
      some (changedFrom 0 display.groups
        (paddedGroups (elapsedSeconds display.startedAt now.wall) display.groups.length))) :=
  if_neg (Nat.not_lt.mpr due)

/-- What a poll makes of a display and what it reports. -/
structure Told (display : LiveTime) (now : Clock) : Prop where
  early : now.instant < display.nextDue → display.poll now = (display, none)
  due : display.nextDue ≤ now.instant → ∃ changed, (display.poll now).2 = some changed ∧
    (changed = [] ↔ (display.poll now).1.text = display.text) ∧
    changed = (List.range (display.poll now).1.groups.length).filter fun place =>
      (display.poll now).1.groups[place]? ≠ display.groups[place]?
  never_fewer : display.groups.length ≤ (display.poll now).1.groups.length

theorem told_poll (grouped : Uptime.Grouped display.groups) (now : Clock) : display.Told now := by
  refine ⟨poll_of_early, fun due => ?_, ?_⟩
  · have visible := display.visible_poll now grouped
    rw [poll_of_due due] at visible ⊢
    refine ⟨_, rfl, ?_, ?_⟩
    · rw [Option.any_some, Bool.not_eq_true', ← Bool.not_eq_true, List.isEmpty_iff] at visible
      exact not_iff_not.mp visible
    · rw [changedFrom_eq, List.range_eq_range']
      rfl
  · rcases Nat.lt_or_ge now.instant display.nextDue with early | due
    · rw [poll_of_early early]
    · rw [poll_of_due due, length_paddedGroups]
      exact Nat.le_max_left _ _

def poll? (display : LiveTime) (now : Clock) : Option LiveTime :=
  some (display.poll now).1

/-- Polls, oldest first, with the displays that they found. -/
abbrev History := List (LiveTime × Clock)

/-- The readings of the epoch that were rendered: that of the creation and those of the polls that were due. -/
def rendered (created : Clock) (past : History) : List Int :=
  created.wall :: past.filterMap fun moment => (moment.1.poll moment.2).2.map fun _ => moment.2.wall

/-- The display shows the last one of these readings, in the groups that the largest one takes. -/
structure Shows (display : LiveTime) (startedAt : Int) (readings : List Int) : Prop where
  numeral : ∀ wall, readings.getLast? = some wall →
    Numeral display.groups (secondsBetween startedAt wall)
  count : (readings.map fun wall => groupsFor (secondsBetween startedAt wall)).max? =
    some display.groups.length

theorem shows_start (startedAt : Int) (generation interval : Nat) (created : Clock) :
    (start startedAt generation interval created).Shows startedAt [created.wall] := by
  have first : (start startedAt generation interval created).groups =
      Uptime.digitGroups (secondsBetween startedAt created.wall) := by
    rw [start, elapsedSeconds_eq]
  refine ⟨fun wall last => ?_, ?_⟩
  · cases last
    rw [first]
    exact numeral_digitGroups _
  · rw [first, length_digitGroups]
    rfl

/-- A poll that is due renders one more reading. -/
theorem Shows.poll (shows : display.Shows startedAt readings) (same : display.startedAt = startedAt)
    (due : display.nextDue ≤ now.instant) :
    (display.poll now).1.Shows startedAt (readings ++ [now.wall]) := by
  have groups : (display.poll now).1.groups =
      paddedGroups (secondsBetween startedAt now.wall) display.groups.length := by
    rw [poll_of_due due, elapsedSeconds_eq, same]
  refine ⟨fun wall last => ?_, ?_⟩
  · rw [List.getLast?_concat] at last
    cases last
    rw [groups]
    exact numeral_paddedGroups _ _
  · obtain ⟨taken, bound⟩ := List.max?_eq_some_iff.mp shows.count
    rw [groups, length_paddedGroups, List.map_append, List.max?_eq_some_iff]
    refine ⟨?_, List.forall_mem_append.mpr ⟨fun size member => ?_, ?_⟩⟩
    · rcases Nat.le_total (groupsFor (secondsBetween startedAt now.wall)) display.groups.length
        with less | more
      · rw [Nat.max_eq_left less]
        exact List.mem_append_left _ taken
      · rw [Nat.max_eq_right more]
        exact List.mem_append_right _ (List.mem_singleton_self _)
    · exact Nat.le_trans (bound size member) (Nat.le_max_left _ _)
    · exact List.forall_mem_singleton.mpr (Nat.le_max_right _ _)

theorem rendered_next (created : Clock) (past : History) (display : LiveTime) (now : Clock) :
    rendered created (past ++ [(display, now)]) =
      rendered created past ++ ((display.poll now).2.map fun _ => now.wall).toList := by
  rw [rendered, filterMap_next]
  rfl

section

variable {generation interval : Nat} {past : History}
  (reach : Reach poll? (.start startedAt generation interval created) past display)

include reach

theorem startedAt_of_reach : display.startedAt = startedAt :=
  reach.invariant (fun display => display.startedAt = startedAt) rfl fun display now _ same taken => by
    cases taken
    exact (display.startedAt_poll now).trans same

theorem grouped_of_reach : Uptime.Grouped display.groups :=
  reach.invariant (fun display => Uptime.Grouped display.groups) (grouped_start ..)
    fun _ now _ grouped taken => by
      cases taken
      exact grouped_poll now grouped

theorem shows_of_reach : display.Shows startedAt (rendered created past) := by
  induction reach with
  | start => exact shows_start startedAt generation interval created
  | @next past display now display' before taken ih =>
    cases taken
    rw [rendered_next]
    rcases Nat.lt_or_ge now.instant display.nextDue with early | due
    · rw [poll_of_early early]
      simpa using ih
    · have shows := ih.poll (startedAt_of_reach before) due
      rw [poll_of_due due] at shows ⊢
      exact shows

end

/-- Whatever the clocks tell, a display shows the seconds of the reading that was rendered last, never in
fewer groups than before, and every poll reports the groups that it changes. -/
theorem shown_over_readings {generation interval : Nat} {past : History}
    (reach : Reach poll? (.start startedAt generation interval created) past display) :
    display.Shows startedAt (rendered created past) ∧ ∀ now, display.Told now :=
  ⟨shows_of_reach reach, told_poll (grouped_of_reach reach)⟩

/-- The display grows by a group, gets a poll too early, keeps the group when the epoch goes back, and at last
counts from the least number of 64 bits to the largest one. -/
theorem shown_over_backward_readings :
    ∃ past display, Reach poll? (.start (-2 ^ 63) 1 100 ⟨0, -2 ^ 63 + 999500⟩) past display ∧
      past.map (fun moment => (String.ofList moment.1.text, (moment.1.poll moment.2).2)) =
        [("999", some [0, 1]), ("1\u2009000", none), ("1\u2009000", some [0, 1]),
          ("0\u2009998", some [0, 1, 2, 3, 4, 5])] ∧
      String.ofList display.text = "9\u2009223\u2009372\u2009036\u2009854\u2009775" ∧
      display.Shows (-2 ^ 63) (rendered ⟨0, -2 ^ 63 + 999500⟩ past) ∧ ∀ now, display.Told now := by
  have reach : Reach poll? (.start (-2 ^ 63) 1 100 ⟨0, -2 ^ 63 + 999500⟩) _ _ :=
    .of_trail [⟨100, -2 ^ 63 + 1000400⟩, ⟨90, 5⟩, ⟨250, -2 ^ 63 + 998000⟩, ⟨500, 2 ^ 63 - 1⟩] rfl
  exact ⟨_, _, reach, by decide, by decide, shown_over_readings reach⟩

end SessionBoard.LiveTime
