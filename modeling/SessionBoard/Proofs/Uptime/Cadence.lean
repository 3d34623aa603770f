import SessionBoard.Proofs.Uptime.Readings

namespace SessionBoard.LiveTime

variable {display : LiveTime} {startedAt : Int} {generation interval : Nat} {created now : Clock}
  {past : History}

/-- The polls that recomputed the display, oldest first. -/
def recomputed (past : History) : History :=
  past.filter fun moment => (moment.1.poll moment.2).2.isSome

theorem isSome_poll_iff (display : LiveTime) (now : Clock) :
    (display.poll now).2.isSome ↔ display.nextDue ≤ now.instant := by
  rcases Nat.lt_or_ge now.instant display.nextDue with early | due
  · simp [poll_of_early early, early]
  · simp [poll_of_due due, due]

theorem interval_poll (display : LiveTime) (now : Clock) : (display.poll now).1.interval = display.interval := by
  unfold poll
  split <;> rfl

theorem nextDue_poll (due : display.nextDue ≤ now.instant) :
    (display.poll now).1.nextDue = display.rearmed now.instant := by
  rw [poll_of_due due]

/-- The next due instant lies ahead, and by no more than an interval. -/
theorem rearmed_bounds (positive : 0 < display.interval) {instant : Nat} (due : display.nextDue ≤ instant) :
    instant < display.rearmed instant ∧ display.rearmed instant ≤ instant + display.interval := by
  unfold rearmed
  split <;> omega

theorem le_rearmed (display : LiveTime) (instant : Nat) :
    display.nextDue + display.interval ≤ display.rearmed instant := by
  unfold rearmed
  split <;> omega

theorem rearmed_of_lt {instant : Nat} (onTime : instant < display.nextDue + display.interval) :
    display.rearmed instant = display.nextDue + display.interval :=
  if_neg (Nat.not_le.mpr onTime)

theorem recomputed_of_early (early : now.instant < display.nextDue) :
    recomputed (past ++ [(display, now)]) = recomputed past := by
  simp [recomputed, poll_of_early early]

theorem recomputed_of_due (due : display.nextDue ≤ now.instant) :
    recomputed (past ++ [(display, now)]) = recomputed past ++ [(display, now)] := by
  simp [recomputed, poll_of_due due]

/-- What holds of the due instant of a display that has an instant of creation and an interval. -/
structure Armed (display : LiveTime) (created interval : Nat) (past : History) : Prop where
  every : display.interval = interval
  /-- Each recomputation puts it off by an interval at least. -/
  least : created + ((recomputed past).length + 1) * interval ≤ display.nextDue
  /-- It is put off by no more than that unless an interval is missed. -/
  grid : (∀ moment ∈ recomputed past, moment.2.instant < moment.1.nextDue + interval) →
    display.nextDue = created + ((recomputed past).length + 1) * interval
  never_early : ∀ count moment, (recomputed past)[count]? = some moment →
    created + (count + 1) * interval ≤ moment.2.instant

theorem armed_start (startedAt : Int) (generation interval : Nat) (created : Clock) :
    (start startedAt generation interval created).Armed created.instant interval [] where
  every := rfl
  least := by simp [recomputed, start]
  grid := fun _ => by simp [recomputed, start]
  never_early := by simp [recomputed]

theorem Armed.poll {created : Nat} (armed : display.Armed created interval past) (now : Clock) :
    (display.poll now).1.Armed created interval (past ++ [(display, now)]) := by
  obtain ⟨same, least, grid, never_early⟩ := armed
  rcases Nat.lt_or_ge now.instant display.nextDue with early | due
  · rw [poll_of_early early]
    refine ⟨same, ?_, ?_, ?_⟩ <;> rwa [recomputed_of_early early]
  · have counted : ((recomputed past ++ [(display, now)]).length + 1) * interval =
        ((recomputed past).length + 1) * interval + interval := by
      rw [List.length_append, List.length_singleton, Nat.add_one_mul (_ + 1)]
    refine ⟨?_, ?_, fun onTime => ?_, fun count moment atCount => ?_⟩
    · rw [interval_poll, same]
    · have later := display.le_rearmed now.instant
      rw [nextDue_poll due, recomputed_of_due due, counted]
      omega
    · rw [recomputed_of_due due, List.forall_mem_append, List.forall_mem_singleton] at onTime
      rw [nextDue_poll due, rearmed_of_lt (same ▸ onTime.2), grid onTime.1, same, recomputed_of_due due,
        counted, Nat.add_assoc]
    · rw [recomputed_of_due due] at atCount
      rcases Nat.lt_or_ge count (recomputed past).length with before | after
      · rw [List.getElem?_append_left before] at atCount
        exact never_early count moment atCount
      · rw [List.getElem?_append_right after, List.getElem?_singleton] at atCount
        split at atCount
        · cases atCount
          obtain rfl : count = (recomputed past).length := by omega
          exact Nat.le_trans least due
        · cases atCount

theorem armed_of_reach (reach : Reach poll? (.start startedAt generation interval created) past display) :
    display.Armed created.instant interval past := by
  induction reach with
  | start => exact armed_start startedAt generation interval created
  | @next past display now _ _ taken ih =>
    cases taken
    exact ih.poll now

/-- What the polls make of a display, those that were and any that comes next. -/
structure Paced (display : LiveTime) (created interval : Nat) (past : History) : Prop where
  recomputed_iff : ∀ now, (display.poll now).2.isSome ↔ display.nextDue ≤ now.instant
  due_ahead : ∀ now, (display.poll now).2.isSome → now.instant < (display.poll now).1.nextDue ∧
    (display.poll now).1.nextDue ≤ now.instant + interval
  never_early : ∀ count moment, (recomputed past)[count]? = some moment →
    created + (count + 1) * interval ≤ moment.2.instant
  on_grid : (∀ moment ∈ recomputed past, moment.2.instant < moment.1.nextDue + interval) →
    display.nextDue = created + ((recomputed past).length + 1) * interval
  untouched : ∀ now, ¬(display.poll now).2.isSome → (display.poll now).1 = display

/-- The cadence is kept whatever the clock tells, also where it goes back. The next instant at which a display
is due is one interval after the last one, or one interval from now where a whole interval has been missed, so
there is neither a drift nor a burst of recomputations to catch up. -/
theorem recomputed_at_cadence (positive : 0 < interval)
    (reach : Reach poll? (.start startedAt generation interval created) past display) :
    display.Paced created.instant interval past := by
  have armed := armed_of_reach reach
  refine ⟨display.isSome_poll_iff, fun now effective => ?_, armed.never_early, armed.grid,
    fun now early => ?_⟩
  · have due := (display.isSome_poll_iff now).mp effective
    rw [nextDue_poll due, ← armed.every]
    exact rearmed_bounds (armed.every ▸ positive) due
  · rw [isSome_poll_iff, Nat.not_le] at early
    rw [poll_of_early early]

/-- Two polls in time, between them one with a clock that has gone back, and then one that comes two intervals
and a half late. -/
theorem recomputed_at_cadence_after_delay :
    ∃ past display, 0 < 100 ∧ Reach poll? (.start 0 1 100 ⟨1000, 0⟩) past display ∧
      past.map (fun moment => (moment.1.nextDue, moment.2.instant)) =
        [(1100, 1099), (1100, 1199), (1200, 900), (1200, 1200), (1300, 1550)] ∧
      (recomputed past).length = 3 ∧ display.nextDue = 1650 ∧ display.Paced 1000 100 past := by
  have reach : Reach poll? (.start 0 1 100 ⟨1000, 0⟩) _ _ :=
    .of_trail [⟨1099, 0⟩, ⟨1199, 0⟩, ⟨900, 0⟩, ⟨1200, 0⟩, ⟨1550, 0⟩] rfl
  exact ⟨_, _, by decide, reach, by decide, by decide, by decide, recomputed_at_cadence (by decide) reach⟩

end SessionBoard.LiveTime
