import SessionBoard.Proofs.Store.Publication

namespace SessionBoard

/-- What is shown in place of this snapshot once a fetch has ended with this answer. -/
def FailurePolicy.shown (policy : FailurePolicy) (before : Snapshot)
    (answer : Except SourceError Snapshot) : Snapshot :=
  (policy.published? answer).getD before

namespace LiveStore

variable {store store' first last : LiveStore} {past : History} {flight : Nat}

/-- Every fetch that ends leaves its mark on the snapshot, and nothing else does. -/
theorem snapshot_of_reach (reach : Reach move? first past last) :
    last.board.snapshot =
      (completed past).foldl (fun before fetch => first.options.onFetchError.shown before fetch.2)
        first.board.snapshot := by
  induction reach with
  | start => rfl
  | @next past store move store' reach taken ih =>
    rw [snapshot_of_move taken, update_of_moment, completed_concat, List.foldl_append, ← ih,
      options_of_reach reach]
    cases (fetchEvent? (store, move)).bind FetchEvent.completed? <;> rfl

theorem length_le_of_reach (reach : Reach move? first past last) :
    first.refreshes.executions.length ≤ last.refreshes.executions.length :=
  reach.invariant (fun store => first.refreshes.executions.length ≤ store.refreshes.executions.length)
    (Nat.le_refl _) fun _ _ _ le taken => Nat.le_trans le (fetching_of_move taken).length_le

/-- Where nothing is requested nothing is launched. -/
theorem length_eq_of_reach (reach : Reach move? first past last) (quiet : requested past = []) :
    last.refreshes.executions.length = first.refreshes.executions.length := by
  induction reach with
  | start => rfl
  | next _ taken ih =>
    rw [requested, filterMap_concat, List.append_eq_nil_iff, Option.toList_eq_nil_iff] at quiet
    rw [(fetching_of_move taken).length_eq quiet.2, ih quiet.1]

namespace Ledger

variable {fetches fetches' : Fetches}

/-- The flight that a request is given stands for the last execution, which has not begun. -/
theorem launched_of_request (ledger : Ledger past fetches)
    (step : Fetching (some (.requested flight)) fetches fetches') :
    flight ∉ asked past ∧ (∃ after, fetches'.stage? flight = some (.launched after)) ∧
      fetches'.executions.length = flight + 1 := by
  obtain ⟨settled, seq⟩ := ledger.sequenced
  cases step with
  | requested =>
    obtain ⟨⟨after, launched⟩, last⟩ := seq.trigger_launched
    refine ⟨?_, ⟨after, launched⟩, last⟩
    rw [ledger.tally.asked_eq, List.mem_range, ← ledger.trigger.tally.begun.iff launched]
    exact Bool.false_ne_true

/-- A fetch takes the place in the order of the endings that its number says. -/
theorem completed_position (ledger : Ledger past fetches)
    {others rest : List (Nat × Except SourceError Snapshot)} {answer : Except SourceError Snapshot}
    (split : completed past = others ++ (flight, answer) :: rest) : others.length = flight := by
  have order := ledger.tally.completed_eq
  rw [split, List.map_append, List.map_cons] at order
  have place := congrArg (·[others.length]?) order
  simpa using place.symm

/-- Nothing is under way where the slot is idle. -/
theorem completed_length (ledger : Ledger past fetches) (idle : fetches.slot = .idle) :
    (completed past).length = fetches.executions.length := by
  obtain ⟨settled, seq⟩ := ledger.sequenced
  have least := ledger.tally.ended.le_of_imp seq.prior fun _ => Stage.ending_of_isSettled
  have most := ledger.tally.ended.le
  rcases seq.slot with ⟨length, _⟩ | ⟨_, slot⟩ | ⟨_, slot, _⟩
  · omega
  · cases idle.symm.trans slot
  · cases idle.symm.trans slot

/-- Every flight that was handed out has come to its end where the slot is idle. -/
theorem exists_completed_of_idle (ledger : Ledger past fetches) (idle : fetches.slot = .idle)
    (launched : flight < fetches.executions.length) : ∃ answer, (flight, answer) ∈ completed past := by
  have within : flight ∈ (completed past).map Prod.fst := by
    rw [ledger.tally.completed_eq, List.mem_range, ledger.completed_length idle]
    exact launched
  obtain ⟨⟨_, answer⟩, member, rfl⟩ := List.mem_map.mp within
  exact ⟨answer, member⟩

/-- A fetch has begun before it ends. -/
theorem mem_asked (ledger : Ledger past fetches) {answer : Except SourceError Snapshot}
    (ended : (flight, answer) ∈ completed past) : flight ∈ asked past :=
  ledger.completed_prefix.subset (List.mem_map.mpr ⟨_, ended, rfl⟩)

end Ledger

/-- What becomes of a request that was made in this moment of a history and that this flight answers. -/
structure AnsweredAfresh (policy : FailurePolicy) (earlier : History) (moment : LiveStore × Move)
    (later : History) (store : LiveStore) (flight : Nat) : Prop where
  /-- The fetch of the flight has not begun before the request. -/
  not_asked : flight ∉ asked earlier
  /-- The fetch of the flight is launched when the request has been made, and has not begun. -/
  launched : ∃ left after, moment.1.move? moment.2 = some left ∧
    left.refreshes.stage? flight = some (.launched after)
  /-- Once nothing is under way, the fetch has begun after the request and ended, and it has left its
  mark on the snapshot when it ended. If the request was the last one, the snapshot has stayed so. -/
  applied : store.refreshes.slot = .idle →
    ∃ before ending after answer left, later = before ++ ending :: after ∧ flight ∈ asked before ∧
      fetchEvent? ending = some (.completed flight answer) ∧ ending.1.move? ending.2 = some left ∧
      left.board.snapshot = policy.shown ending.1.board.snapshot answer ∧
      (requested later = [] → store.board.snapshot = left.board.snapshot)

/-- A fetch that ends leaves its mark on the snapshot by the very move. -/
theorem snapshot_of_completed {moment : LiveStore × Move} {answer : Except SourceError Snapshot}
    (said : fetchEvent? moment = some (.completed flight answer))
    (taken : moment.1.move? moment.2 = some store') :
    store'.board.snapshot =
      moment.1.options.onFetchError.shown moment.1.board.snapshot answer := by
  rw [snapshot_of_move taken, dispatch_of_completed said]
  rfl

/-- A fetch that had not begun before some moves and has ended by the last of them began on the way. -/
theorem mem_asked_of_ending {earlier before : History} {ending : LiveStore × Move}
    {answer : Except SourceError Snapshot} {fetches : Fetches}
    (ledger : Ledger (earlier ++ before ++ [ending]) fetches) (notAsked : flight ∉ asked earlier)
    (said : fetchEvent? ending = some (.completed flight answer)) : flight ∈ asked before := by
  have ended : (flight, answer) ∈ completed (earlier ++ before ++ [ending]) := by
    rw [completed_concat, said]
    exact List.mem_append_right _ (List.mem_singleton.mpr rfl)
  have begun := ledger.mem_asked ended
  rw [asked_concat, said, asked_append] at begun
  simpa [FetchEvent.asked?, notAsked] using begun

/-- The fetch that was launched last is the last one to end. -/
theorem Ledger.completed_after {fetches : Fetches} (ledger : Ledger past fetches)
    {before after : History} {ending : LiveStore × Move} {answer : Except SourceError Snapshot}
    (split : past = before ++ ending :: after) (said : fetchEvent? ending = some (.completed flight answer))
    (last : fetches.executions.length = flight + 1) : completed after = [] := by
  have order : completed past = completed before ++ (flight, answer) :: completed after := by
    rw [split, List.append_cons, completed_append, completed_concat, said, List.append_assoc]
    rfl
  have place := ledger.completed_position order
  have most := ledger.tally.ended.le
  rw [order, List.length_append, List.length_cons] at most
  exact List.eq_nil_of_length_eq_zero (by omega)

/-- Whatever requests a fresh list gets one that is fetched after the request. Requests that come in a burst
share a fetch, but never one that has begun before them, and when nothing is under way any more every request
has been answered. -/
theorem no_request_absorbed {options : SyncOptions} {earlier later : History}
    {moment : LiveStore × Move} (reach : Reach move? { options := options } (earlier ++ moment :: later) store)
    (request : fetchEvent? moment = some (.requested flight)) :
    AnsweredAfresh options.onFetchError earlier moment later store flight := by
  have whole := ledger_of_reach reach
  obtain ⟨left, found, taken, onward⟩ := reach.moment
  obtain ⟨notAsked, ⟨waiting, launched⟩, last⟩ :=
    (ledger_of_reach found).launched_of_request (request ▸ fetching_of_move taken)
  refine ⟨notAsked, ⟨left, waiting, taken, launched⟩, fun idle => ?_⟩
  have notSince : flight ∉ asked (earlier ++ [moment]) := by
    rw [asked_concat, request]
    simpa [FetchEvent.asked?] using notAsked
  have handedOut : flight < store.refreshes.executions.length := by
    have := length_le_of_reach onward
    omega
  -- The fetch cannot have ended before it was launched, so its end is found among the later moves.
  obtain ⟨answer, ended⟩ := whole.exists_completed_of_idle idle handedOut
  rw [List.append_cons, completed_append, List.mem_append] at ended
  have endedLater := ended.resolve_left fun early =>
    notSince ((ledger_of_reach (.next found taken)).mem_asked early)
  obtain ⟨before, ending, after, rfl, said⟩ := mem_completed endedLater
  -- Cut where it ends: what was not asked at the first cut and is at this one was asked in between.
  rw [List.append_cons, ← List.append_assoc] at reach
  obtain ⟨left', found', taken', onward'⟩ := reach.moment
  have ledger' := ledger_of_reach (.next found' taken')
  have mark := snapshot_of_completed said taken'
  rw [options_of_reach found'] at mark
  refine ⟨before, ending, after, answer, left', rfl, mem_asked_of_ending ledger' notSince said, said,
    taken', mark, fun quiet => ?_⟩
  have split : earlier ++ moment :: (before ++ ending :: after) =
      (earlier ++ moment :: before) ++ ending :: after := by
    rw [List.append_assoc, List.cons_append]
  have silent : completed after = [] :=
    whole.completed_after split said ((length_eq_of_reach onward quiet).trans last)
  rw [snapshot_of_reach onward', silent]
  rfl

/-- An update arrives while a fetch is under way, and a refresh after it: both are answered by a second
fetch, of which the snapshot is. -/
theorem no_request_absorbed_under_way :
    ∃ earlier moment later store, Reach move? { options := {} } (earlier ++ moment :: later) store ∧
      moment.2 = .step .work (.channel 0) ∧ asked earlier = [0] ∧ requested later = [1] ∧
      asked later = [1] ∧ store.refreshes.slot = .idle ∧ store.board.snapshot = [default] ∧
      AnsweredAfresh .clear earlier moment later store 1 := by
  have before : Reach move? { options := {} } _ _ :=
    .of_trail [.start, .step .work (.syncLoop 1), .step .work (.refresh 0), .step .work (.syncLoop 1),
      .step .work (.channel 0), .step .work (.channel 0), .grantChannel, .step .work (.channel 0),
      .send 0 [.ok .update], .step .work (.channel 0)] rfl
  have reach := before.append <| .of_trail [.step .work (.channel 0), .refresh, .answerFetch (.ok []),
      .step .work (.refresh 0), .step .work (.refresh 0), .step .work (.refresh 0),
      .step .work (.refresh 0), .step .work (.refresh 1), .answerFetch (.ok [default]),
      .step .work (.refresh 1), .step .work (.refresh 1), .step .work (.refresh 1)] rfl
  exact ⟨_, _, _, _, reach, rfl, rfl, rfl, rfl, rfl, rfl, no_request_absorbed reach rfl⟩

end LiveStore

end SessionBoard
