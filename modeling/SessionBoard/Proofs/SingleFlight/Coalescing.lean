import SessionBoard.Proofs.SingleFlight.History

namespace SessionBoard.SingleFlight

variable {σ α : Type} {past : History σ α} {first flights flights' : SingleFlight σ α} {id : Nat}

/-- A place in a row of numbers is the number itself, and the end for a number that is missing. -/
theorem idxOf_range (number count : Nat) : (List.range count).idxOf number = min number count := by
  induction count with
  | zero => simp
  | succ count ih =>
    rw [List.range_succ, List.idxOf_append, ih]
    by_cases before : number < count
    · simp only [List.mem_range, before, if_true]
      omega
    · have place : [count].idxOf number = if number = count then 0 else 1 := by
        simp [List.idxOf_cons, eq_comm (a := number), Bool.cond_eq_ite]
      simp only [List.mem_range, before, if_false, List.length_range, place]
      split <;> omega

/-- As long as nothing settles, a queued follow-up stays where it is. -/
theorem slot_of_move {move : Move σ α} {current followUp : Nat} (queued : flights.slot = .queued current followUp)
    (unsettled : History.settled? (flights, move) = none) (taken : flights.move? move = some flights') :
    flights'.slot = .queued current followUp := by
  cases move with
  | trigger =>
    cases taken
    simp only [trigger, queued]
  | begin id progress =>
    obtain ⟨_, _, _, rfl⟩ := begin?_eq_some.mp taken
    exact queued
  | report id progress =>
    obtain ⟨_, rfl⟩ := report?_eq_some.mp taken
    exact queued
  | finish id outcome =>
    obtain ⟨_, rfl⟩ := finish?_eq_some.mp taken
    exact queued
  | settle id => cases unsettled
  | resolve id =>
    obtain ⟨_, _, rfl⟩ := resolve?_eq_some.mp taken
    exact queued

/-- All requests are given the follow-up that is queued, until something settles. -/
theorem returned_of_queued {current followUp : Nat} (reach : Reach move? first past flights)
    (queued : first.slot = .queued current followUp) (unsettled : past.settled = []) :
    flights.slot = .queued current followUp ∧ ∀ flight ∈ past.returned, flight = followUp := by
  induction reach with
  | start => exact ⟨queued, by simp [History.returned]⟩
  | @next past flights move flights' _ taken ih =>
    rw [History.settled_concat, List.append_eq_nil_iff, Option.toList_eq_nil_iff] at unsettled
    obtain ⟨still, same⟩ := ih unsettled.1
    refine ⟨slot_of_move still unsettled.2 taken, ?_⟩
    rw [History.returned_concat, List.forall_mem_append]
    refine ⟨same, ?_⟩
    cases move <;> simp [trigger, still]

/-- The flight of a request stands for the execution that was launched last. -/
theorem Chronicle.returned_last (chronicle : Chronicle past flights) {move : Move σ α} {flight : Nat}
    (given : History.returned? (flights, move) = some flight) (taken : flights.move? move = some flights') :
    flights.executions.length ≤ flight + 1 ∧ flights'.executions.length = flight + 1 := by
  cases move <;> cases given
  cases taken
  have last := chronicle.sequenced.trigger_launched.2
  rcases flights.trigger_executions with same | ⟨after, grown⟩
  · rw [same] at last
    exact ⟨Nat.le_of_eq last, same ▸ last⟩
  · rw [← last, grown]
    simp

theorem length_le_of_move {move : Move σ α} (taken : flights.move? move = some flights') :
    flights.executions.length ≤ flights'.executions.length := by
  cases move with
  | trigger =>
    cases taken
    rcases flights.trigger_executions with same | ⟨after, grown⟩ <;> simp [*]
  | begin | report | finish | settle | resolve =>
    exact Nat.le_of_eq (length_eq_of_move taken (by simp)).symm

/-- Whoever asks later is given the same execution or a later one. -/
theorem returned_sorted (reach : Reach move? {} past flights) :
    past.returned.Pairwise (· ≤ ·) ∧ ∀ flight ∈ past.returned, flight < flights.executions.length := by
  induction reach with
  | start => simp [History.returned]
  | @next past flights move flights' reach taken ih =>
    obtain ⟨sorted, launched⟩ := ih
    have grows := length_le_of_move taken
    rw [History.returned_concat]
    cases given : History.returned? (flights, move) with
    | none =>
      rw [Option.toList_none, List.append_nil]
      exact ⟨sorted, fun flight member => Nat.lt_of_lt_of_le (launched flight member) grows⟩
    | some flight =>
      obtain ⟨least, last⟩ := (chronicle_of_reach reach).returned_last given taken
      refine ⟨List.pairwise_append.mpr ⟨sorted, by simp, ?_⟩, ?_⟩
      · intro earlier member later isFlight
        have := launched earlier member
        have : later = flight := by simpa using isFlight
        omega
      · intro other member
        rcases List.mem_append.mp member with earlier | isFlight
        · exact Nat.lt_of_lt_of_le (launched other earlier) grows
        · have : other = flight := by simpa using isFlight
          omega

/-- What a history of requests and executions, in whatever order they came, keeps to. -/
structure Coalesced (past : History σ α) (flights : SingleFlight σ α) : Prop where
  /-- The flight of a request is that of an execution which has been launched and has not begun. -/
  fresh : ∀ (before : History σ α) found after, past = before ++ (found, .trigger) :: after →
    found.trigger.2 ∉ before.begun ∧
      ∃ ahead, found.trigger.1.stage? found.trigger.2 = some (.launched ahead)
  /-- Unless something settles on the way, requests launch two executions at the most. -/
  launched_le_two : ∀ before (burst : History σ α) after, past = before ++ burst ++ after → burst.settled = [] →
    burst.launched.length ≤ 2
  /-- Once a request has launched a follow-up, all the others are given it, until something settles. -/
  followUp_shared : ∀ before found current (burst : History σ α) after,
    past = before ++ (found, .trigger) :: burst ++ after → found.slot = .pending current →
      burst.settled = [] → ∀ flight ∈ burst.returned, flight = found.trigger.2
  launched_le : past.launched.length ≤ past.settled.length + 2
  begun_le : past.begun.length ≤ past.settled.length + 1
  /-- Every execution begins once at the most. -/
  begun_once : past.begun.Nodup
  /-- Whoever asks later is not given an execution that begins earlier. -/
  in_order : past.returned.Pairwise fun earlier later =>
    past.begun.idxOf earlier ≤ past.begun.idxOf later

/-- Where nothing settles, two executions are launched at the most: those that a full slot names. -/
theorem launched_le_two {before burst : History σ α} {middle : SingleFlight σ α}
    (atFirst : Reach move? {} before middle) (reach : Reach move? {} (before ++ burst) flights)
    (unsettled : burst.settled = []) : burst.launched.length ≤ 2 := by
  have early := chronicle_of_reach atFirst
  have late := chronicle_of_reach reach
  have sameSettled : (before ++ burst : History σ α).settled = before.settled := by
    rw [History.settled, List.filterMap_append]
    exact (congrArg (before.settled ++ ·) unsettled).trans (List.append_nil _)
  have grown : (before ++ burst : History σ α).launched.length =
      before.launched.length + burst.launched.length := by
    rw [History.launched, List.filterMap_append, List.length_append]
    rfl
  have least := early.sequenced.length_le.1
  have most := late.sequenced.length_le.2
  rw [sameSettled] at most
  rw [late.launched_eq, early.launched_eq, List.length_range, List.length_range] at grown
  omega

/-- A request is given an execution that has not begun. -/
theorem Chronicle.fresh (chronicle : Chronicle past flights) :
    flights.trigger.2 ∉ past.begun ∧
      ∃ ahead, flights.trigger.1.stage? flights.trigger.2 = some (.launched ahead) := by
  obtain ⟨ahead, launched⟩ := chronicle.sequenced.trigger_launched.1
  refine ⟨?_, ahead, launched⟩
  have begun := (Chronicle.next chronicle (rfl : flights.move? .trigger = _)).begun_first
  have same : (past ++ [(flights, .trigger)] : History σ α).begun = past.begun := by
    simp [History.begun_concat]
  rw [same] at begun
  rw [chronicle.begun_eq, List.mem_range, ← begun.iff launched]
  exact Bool.false_ne_true

/-- Requests in bursts share executions, but none that has begun before. However many there are, between two
settlings they launch two executions at the most, nobody is given an execution that has begun before the
request, and whoever asks later is never given an earlier one. -/
theorem coalesced (reach : Reach move? {} past flights) : Coalesced past flights := by
  have whole := chronicle_of_reach reach
  refine ⟨?_, ?_, ?_, ?_, whole.begun_le_settled, ?_, ?_⟩
  · rintro before found after rfl
    obtain ⟨_, earlier, _⟩ := reach.moment
    exact (chronicle_of_reach earlier).fresh
  · rintro before burst after rfl unsettled
    obtain ⟨last, earlier, _⟩ := reach.split
    obtain ⟨middle, atFirst, _⟩ := earlier.split
    exact launched_le_two atFirst earlier unsettled
  · rintro before found current burst after rfl pending unsettled
    rw [List.append_assoc, List.cons_append] at reach
    obtain ⟨left, _, taken, onward⟩ := reach.moment
    cases taken
    obtain ⟨middle, during, _⟩ := onward.split
    have queued : found.trigger.1.slot = .queued current found.trigger.2 := by
      simp only [trigger, pending]
    exact (returned_of_queued during queued unsettled).2
  · rw [whole.launched_eq, List.length_range]
    exact whole.sequenced.length_le.2
  · rw [whole.begun_eq]
    exact List.nodup_range
  · rw [whole.begun_eq]
    refine (returned_sorted reach).1.imp fun le => ?_
    rw [idxOf_range, idxOf_range]
    omega

/-- A burst of three requests, a panic under the queued follow-up, and a request while nobody has learnt
of the panic yet: it is given a third execution, to come after the follow-up. -/
theorem coalesced_after_panic :
    ∃ (past : History Unit Int) (flights : SingleFlight Unit Int), Reach move? {} past flights ∧
      past.returned = [0, 1, 1, 2] ∧ past.launched = [0, 1, 2] ∧ past.begun = [0] ∧
      past.settled = [0] ∧ Coalesced past flights := by
  have reach : Reach move? ({} : SingleFlight Unit Int) _ _ :=
    .of_trail [.trigger, .begin 0 (), .trigger, .trigger, .finish 0 none, .settle 0, .trigger] rfl
  exact ⟨_, _, reach, rfl, rfl, rfl, rfl, coalesced reach⟩

end SessionBoard.SingleFlight
