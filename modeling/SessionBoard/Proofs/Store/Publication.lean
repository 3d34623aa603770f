import SessionBoard.Proofs.Store.Ledger

namespace SessionBoard.LiveStore

variable {store store' : LiveStore} {id : Nat} {past : History}

theorem applyAnswer_eq (store : LiveStore) (answer : Except SourceError Snapshot) :
    store.applyAnswer answer =
      (store.options.onFetchError.published? answer).elim store fun snapshot =>
        store.dispatch (.update snapshot) := by
  cases answer with
  | ok snapshot => rfl
  | error error =>
    unfold applyAnswer FailurePolicy.published?
    cases store.options.onFetchError <;> rfl

theorem RefreshStep.board (step : RefreshStep store id store') :
    store'.board = (store.stepDispatch? (.refresh id)).elim store.board store.board.dispatch := by
  cases step with
  | asks run =>
    obtain ⟨after, atId, _⟩ := SingleFlight.begin?_eq_some.mp run
    simp only [stepDispatch?, atId, Option.elim]
  | takes _ waiting =>
    simp only [stepDispatch?, waiting, Option.elim]
  | @completes answer _ arrived =>
    simp only [stepDispatch?, arrived, applyAnswer_eq]
    cases store.options.onFetchError.published? answer <;> rfl
  | unwinds run =>
    rcases SingleFlight.unwind?_eq_some.mp run with ⟨outcome, atId, _⟩ | ⟨outcome, atId, _⟩ <;>
      simp only [stepDispatch?, atId, Option.elim]

theorem ChannelStep.board (step : ChannelStep store id store') :
    store'.board = (store.stepDispatch? (.channel id)).elim store.board store.board.dispatch := by
  cases step with
  | begins begun =>
    obtain ⟨after, atId, _⟩ := SingleFlight.begin?_eq_some.mp begun
    simp only [stepDispatch?, atId, Option.elim]
  | abandons atId bound =>
    cases bound <;> simp only [stepDispatch?, atId, Option.elim]
  | asks atId | answered atId | takes atId =>
    simp only [stepDispatch?, atId, Option.elim]
  | updates atId =>
    simp only [stepDispatch?, atId, Option.elim, refresh_eq]
  | confirms atId | fails atId =>
    simp only [stepDispatch?, atId]
    rfl
  | ignores atId known =>
    rcases known with ⟨rfl, rfl⟩ | ⟨name, rfl⟩ <;> simp only [stepDispatch?, atId, Option.elim]
  | unwinds run =>
    rcases SingleFlight.unwind?_eq_some.mp run with ⟨outcome, atId, _⟩ | ⟨outcome, atId, _⟩ <;>
      simp only [stepDispatch?, atId, Option.elim]

theorem LoopStep.board {preference : Preference} {run : Nat}
    (step : LoopStep store preference run store') : store'.board = store.board := by
  cases step <;> rfl

/-- A step of a task dispatches what is said of it, and nothing else. -/
theorem board_of_step {preference : Preference} {task : StoreTask}
    (taken : store.step preference task = some store') :
    store'.board = (store.stepDispatch? task).elim store.board store.board.dispatch := by
  cases task with
  | refresh id => exact (stepRefresh_cases taken).board
  | channel id => exact (stepChannel_cases taken).board
  | syncLoop run => exact (stepLoop_cases taken).board

/-- A subscriber takes an event off its own inbox. -/
theorem shown_of_receive {board board' : Board} {subscriber : Nat} {event : StoreEvent}
    (received : board.receive? subscriber = some (event, board')) :
    board'.snapshot = board.snapshot ∧ board'.connectivity = board.connectivity := by
  unfold Board.receive? at received
  split at received
  · cases received
    exact ⟨rfl, rfl⟩
  · cases received

/-- The snapshot is replaced by every update that is dispatched, and by nothing else. -/
theorem snapshot_of_move {move : Move} (taken : store.move? move = some store') :
    store'.board.snapshot =
      ((dispatch? (store, move)).bind StoreEvent.snapshot?).getD store.board.snapshot := by
  cases move with
  | receive subscriber =>
    obtain ⟨⟨event, board⟩, received, rfl⟩ := Option.map_eq_some_iff.mp taken
    exact (shown_of_receive received).1
  | step preference task =>
    rw [board_of_step taken, dispatch?]
    rcases store.stepDispatch? task with _ | event
    · rfl
    · cases event <;> rfl
  | _ =>
    cases taken
    rfl

theorem options_of_move {move : Move} (taken : store.move? move = some store') :
    store'.options = store.options := by
  cases move with
  | receive subscriber =>
    obtain ⟨⟨event, board⟩, received, rfl⟩ := Option.map_eq_some_iff.mp taken
    rfl
  | step preference task =>
    cases task with
    | refresh id =>
      obtain ⟨_, _, _, rfl, _⟩ := (stepRefresh_cases taken).frame
      rfl
    | channel id => cases stepChannel_cases taken <;> rfl
    | syncLoop run => cases stepLoop_cases taken <;> rfl
  | _ =>
    cases taken
    rfl

/-- A move dispatches an update exactly when a fetch ends by it that has something to publish. -/
theorem update_of_moment (moment : LiveStore × Move) :
    (dispatch? moment).bind StoreEvent.snapshot? =
      ((fetchEvent? moment).bind FetchEvent.completed?).bind fun fetch =>
        moment.1.options.onFetchError.published? fetch.2 := by
  obtain ⟨store, move⟩ := moment
  cases move with
  | step preference task =>
    cases task with
    | refresh id =>
      simp only [dispatch?, fetchEvent?, stepDispatch?, stepEvent?]
      rcases store.refreshes.stage? id with _ | _ | (_ | answer) | _ | _ | _
      case some.running.asked => cases store.server.fetchAnswers <;> rfl
      case some.running.answered =>
        simp only [Option.bind_some, FetchEvent.completed?]
        cases store.options.onFetchError.published? answer <;> rfl
      all_goals rfl
    | channel id =>
      have noUpdate : (store.stepDispatch? (.channel id)).bind StoreEvent.snapshot? = none := by
        simp only [stepDispatch?]
        split <;> rfl
      have notEnded : (store.stepEvent? preference (.channel id)).bind FetchEvent.completed? = none := by
        simp only [stepEvent?]
        split <;> rfl
      simp only [dispatch?, fetchEvent?, noUpdate, notEnded, Option.bind_none]
    | syncLoop run =>
      have notEnded : (store.stepEvent? preference (.syncLoop run)).bind FetchEvent.completed? = none := by
        simp only [stepEvent?]
        split <;> rfl
      simp only [dispatch?, stepDispatch?, fetchEvent?, notEnded, Option.bind_none]
  | _ => rfl

/-- A fetch publishes in the very move by which it ends. -/
theorem dispatch_of_completed {moment : LiveStore × Move} {answer : Except SourceError Snapshot}
    (said : fetchEvent? moment = some (.completed id answer)) :
    (dispatch? moment).bind StoreEvent.snapshot? =
      moment.1.options.onFetchError.published? answer := by
  rw [update_of_moment, said]
  rfl

theorem eq_update_of_snapshot {event : Option StoreEvent} {snapshot : Snapshot}
    (found : event.bind StoreEvent.snapshot? = some snapshot) : event = some (.update snapshot) := by
  rcases event with _ | _ | _ | _ <;> simp_all [StoreEvent.snapshot?]

theorem updates_concat (past : History) (moment : LiveStore × Move) :
    updates (past ++ [moment]) =
      updates past ++ ((dispatch? moment).bind StoreEvent.snapshot?).toList :=
  filterMap_next ..

theorem options_of_reach {first : LiveStore} (reach : Reach move? first past store) :
    store.options = first.options :=
  reach.invariant (fun store => store.options = first.options) rfl fun _ _ _ same taken =>
    (options_of_move taken).trans same

/-- One update for each fetch that ended with something to publish, in the order of the endings. -/
theorem updates_of_reach {first : LiveStore} (reach : Reach move? first past store) :
    updates past =
      (completed past).filterMap fun fetch => first.options.onFetchError.published? fetch.2 := by
  induction reach with
  | start => rfl
  | @next past store move store' reach _ ih =>
    rw [updates_concat, completed_concat, List.filterMap_append, ih, update_of_moment,
      options_of_reach reach]
    cases (fetchEvent? (store, move)).bind FetchEvent.completed? with
    | none => rfl
    | some fetch => cases published : first.options.onFetchError.published? fetch.2 <;> simp [published]

/-- The snapshot is that of the last update. -/
theorem snapshot_of_updates {first : LiveStore} (reach : Reach move? first past store) :
    store.board.snapshot = (updates past).getLast?.getD first.board.snapshot := by
  induction reach with
  | start => rfl
  | @next past store move store' _ taken ih =>
    rw [snapshot_of_move taken, updates_concat, ih]
    cases (dispatch? (store, move)).bind StoreEvent.snapshot? <;> simp

theorem updates_eq {options : SyncOptions} (reach : Reach move? { options := options } past store) :
    updates past =
      (completed past).filterMap fun fetch => options.onFetchError.published? fetch.2 :=
  updates_of_reach reach

theorem snapshot_eq {options : SyncOptions} (reach : Reach move? { options := options } past store) :
    store.board.snapshot = (updates past).getLast?.getD [] :=
  snapshot_of_updates reach

/-- What the history of a store with this policy and its state have in common: one update for each fetch that
ends, in the order in which fetches begin, so the snapshot is never that of an older fetch than the last one to
end. -/
structure PublishedInOrder (policy : FailurePolicy) (past : History) (store : LiveStore) : Prop where
  /-- A step of a task dispatched to the board what the history says, and nothing else. -/
  dispatched : ∀ before found preference task after,
    past = before ++ (found, .step preference task) :: after →
      ∃ left, found.step preference task = some left ∧
        left.board = (dispatch? (found, .step preference task)).elim found.board found.board.dispatch
  /-- Every fetch begins once, in the order of the flights. -/
  asked_order : (asked past).Pairwise (· < ·)
  /-- No fetch begins before the one before it has ended. -/
  one_at_a_time : (asked past).length ≤ (completed past).length + 1
  /-- Answers come to the fetches in the order in which they began. -/
  answered_order : (answered past).map Prod.fst <+: asked past
  /-- Fetches end in that order as well, each with the answer that came to it. -/
  completed_order : completed past <+: answered past
  /-- There is one update for each fetch that ended: its list, and for a failed one an empty list or
  none at all, as the policy has it. -/
  updates_eq : updates past = (completed past).filterMap fun fetch => policy.published? fetch.2
  /-- The last good list stays. -/
  snapshot_keep : policy = .keep →
    store.board.snapshot = ((completed past).filterMap fun fetch => fetch.2.toOption).getLast?.getD []
  /-- The last fetch counts, good or not. -/
  snapshot_clear : policy = .clear →
    store.board.snapshot = ((completed past).getLast?.bind fun fetch => fetch.2.toOption).getD []
  /-- A flight tells the length of the list that its own execution has dispatched. -/
  resolved_ok : ∀ flight count, store.refreshes.outcome? flight = some (some (.ok count)) →
    ∃ before moment after snapshot, past = before ++ moment :: after ∧
      fetchEvent? moment = some (.completed flight (.ok snapshot)) ∧
      dispatch? moment = some (.update snapshot) ∧ snapshot.length = count
  /-- A flight tells of an error exactly when its own fetch failed with it. -/
  resolved_error : ∀ flight outcome error, store.refreshes.outcome? flight = some outcome →
    (outcome = some (.error error) ↔ (flight, .error error) ∈ completed past)

theorem mem_completed {answer : Except SourceError Snapshot} (member : (id, answer) ∈ completed past) :
    ∃ before moment after, past = before ++ moment :: after ∧
      fetchEvent? moment = some (.completed id answer) := by
  obtain ⟨event, happened, found⟩ := List.mem_filterMap.mp member
  obtain ⟨moment, passed, said⟩ := List.mem_filterMap.mp happened
  obtain ⟨before, after, rfl⟩ := List.append_of_mem passed
  cases event <;> cases found
  exact ⟨before, moment, after, rfl, said⟩

theorem resolved_completed {flight : Nat} {outcome : Option (Except SourceError Nat)}
    (ledger : Ledger past store.refreshes) (resolved : store.refreshes.outcome? flight = some outcome) :
    ∃ answer, (flight, answer) ∈ completed past ∧ outcome = some (fetchOutcome answer) := by
  have atFlight := SingleFlight.outcome?_eq_some.mp resolved
  obtain ⟨answer, member, ending⟩ := ledger.exists_completed atFlight rfl
  exact ⟨answer, member, Option.some.inj ending⟩

theorem published_in_order {options : SyncOptions}
    (reach : Reach move? { options := options } past store) :
    PublishedInOrder options.onFetchError past store := by
  have ledger := ledger_of_reach reach
  have shown := snapshot_eq reach
  rw [updates_eq reach] at shown
  refine ⟨?_, ?_, ledger.asked_le, ledger.answered_prefix, ?_, updates_eq reach, ?_, ?_, ?_, ?_⟩
  · rintro before found preference task after rfl
    obtain ⟨left, _, taken, _⟩ := reach.moment
    exact ⟨left, taken, board_of_step taken⟩
  · rw [ledger.tally.asked_eq]
    exact List.pairwise_lt_range
  · obtain ⟨current, answers, _⟩ := ledger.arrived
    rw [answers]
    exact List.prefix_append ..
  · intro keep
    rw [shown, keep]
    congr 3
    funext fetch
    rcases fetch with ⟨_, _ | _⟩ <;> rfl
  · intro clear
    have every : (fun fetch : Nat × Except SourceError Snapshot =>
        options.onFetchError.published? fetch.2) = fun fetch => some (fetch.2.toOption.getD []) := by
      funext fetch
      rw [clear]
      rcases fetch with ⟨_, _ | _⟩ <;> rfl
    rw [shown, every, List.filterMap_eq_map', List.getLast?_map]
    cases (completed past).getLast? <;> rfl
  · intro flight count resolved
    obtain ⟨answer, member, outcome⟩ := resolved_completed ledger resolved
    obtain ⟨before, moment, after, split, said⟩ := mem_completed member
    cases answer with
    | error error => cases outcome
    | ok snapshot =>
      cases outcome
      exact ⟨before, moment, after, snapshot, split, said,
        eq_update_of_snapshot (dispatch_of_completed said), rfl⟩
  · intro flight outcome error resolved
    obtain ⟨answer, member, rfl⟩ := resolved_completed ledger resolved
    constructor
    · intro same
      cases answer with
      | error error' =>
        cases same
        exact member
      | ok snapshot => cases same
    · intro failed
      rw [ledger.completed_unique member failed]
      rfl

/-- A first fetch succeeds, the follow-up of a burst fails, and the first list stays. -/
theorem published_in_order_after_failure :
    ∃ past store, Reach move? { options := { onFetchError := .keep } } past store ∧
      completed past = [(0, .ok [default]), (1, .error .closed)] ∧
      store.board.snapshot = [default] ∧ PublishedInOrder .keep past store := by
  have reach : Reach move? { options := { onFetchError := .keep } } _ _ :=
    .of_trail [.refresh, .step .work (.refresh 0), .refresh, .answerFetch (.ok [default]),
      .step .work (.refresh 0), .step .work (.refresh 0), .step .work (.refresh 0),
      .step .work (.refresh 0), .step .work (.refresh 1), .answerFetch (.error .closed),
      .step .work (.refresh 1), .step .work (.refresh 1)] rfl
  exact ⟨_, _, reach, rfl, rfl, published_in_order reach⟩

end SessionBoard.LiveStore
