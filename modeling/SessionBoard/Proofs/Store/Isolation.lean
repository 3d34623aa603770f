import SessionBoard.Proofs.Store.Custody
import SessionBoard.Proofs.Store.Freshness
import SessionBoard.Proofs.Store.Restart

namespace SessionBoard.LiveStore

variable {store last : LiveStore} {past later earlier : History} {flight : Nat} {options : SyncOptions}

/-- A fresh list was fetched after this request, or is being fetched, as far as the server has answered. -/
inductive Served (later : History) (last : LiveStore) (flight : Nat) : Prop
  | fetched {answer} (asked : flight ∈ asked later) (completed : (flight, answer) ∈ completed later)
  /-- The server owes an answer to the fetch of the request or to the one just before it. -/
  | owed {current} (waiting : last.refreshes.stage? current = some (.running .asked))
      (noAnswer : last.server.fetchAnswers = [])
      (turn : flight = current ∨ last.refreshes.stage? flight = some (.launched (some current)))

theorem served {moment : LiveStore × Move}
    (reach : Reach move? { options := options } (earlier ++ moment :: later) last)
    (request : fetchEvent? moment = some (.requested flight)) (rest : last.runnable = []) :
    Served later last flight := by
  have whole := ledger_of_reach reach
  obtain ⟨left, found, taken, onward⟩ := reach.moment
  obtain ⟨notAsked, _, launched⟩ :=
    (ledger_of_reach found).launched_of_request (request ▸ fetching_of_move taken)
  have handedOut : flight < last.refreshes.executions.length := by
    have := length_le_of_reach onward
    omega
  have fetched : (last.refreshes.outcome? flight).isSome → Served later last flight := by
    intro resolved
    obtain ⟨outcome, resolved⟩ := Option.isSome_iff_exists.mp resolved
    obtain ⟨answer, member, _⟩ := whole.exists_completed (SingleFlight.outcome?_eq_some.mp resolved) rfl
    have begun := whole.mem_asked member
    rw [List.append_cons, asked_append, asked_concat, request] at begun
    rw [List.append_cons, completed_append, completed_concat, request] at member
    have notCompleted : (flight, answer) ∉ completed earlier := fun early =>
      notAsked ((ledger_of_reach found).mem_asked early)
    exact .fetched (by simpa [FetchEvent.asked?, notAsked] using begun)
      (by simpa [FetchEvent.completed?, notCompleted] using member)
  cases refreshes_resting rest reach with
  | idle _ resolved => exact fetched (resolved flight handedOut)
  | @busy current progress running resolved waiting =>
    obtain ⟨rfl, noAnswer⟩ := asked_of_running rest running
    rcases Nat.lt_trichotomy flight current with ended | rfl | next
    · exact fetched (resolved flight ended)
    · exact .owed running noAnswer (.inl rfl)
    · exact .owed running noAnswer (.inr (waiting flight next handedOut).2)

/-- To cancel a run once more changes nothing. -/
theorem cancel_eq_self {run : Nat} (cancelled : store.isCancelled run) : store.cancel run = store := by
  have same : cancelRun store.runs run = store.runs := by
    refine List.ext_getElem? fun other => ?_
    rw [getElem?_cancelRun]
    cases atOther : store.runs[other]? with
    | none => rfl
    | some state =>
      by_cases own : other = run
      · subst own
        have isCancelled : state.cancelled = true := by simpa [isCancelled, atOther] using cancelled
        simp [← isCancelled]
      · simp [own]
  rw [cancel, same]

/-- The last run was shut down or its handle was dropped, and all tasks wait. -/
structure Quiet (store : LiveStore) : Prop where
  /-- No channel is open or being opened: those that were not let go still wait for an open. -/
  closed : ∀ id progress, store.channels.stage? id ≠ some (.running progress)
  released : ∀ channel, store.server.isUnreleased channel → channel ∈ store.server.granted
  /-- Until the next start no channel is asked for, and nothing is told of one. -/
  silent : ∀ later last, Reach move? store later last → starts later = 0 →
    opens later = [] ∧ last.server.opens = store.server.opens ∧ announced later = [] ∧
      last.board.connectivity = store.board.connectivity ∧
      ∀ id progress, last.channels.stage? id ≠ some (.running progress)
  /-- Whoever asks for a fresh list is still given one. -/
  refreshed : ∀ before found after last, Reach move? store (before ++ (found, .refresh) :: after) last →
    last.runnable = [] → Served after last found.refresh.2
  /-- Every fetch that ends is still published, and shown. -/
  published : ∀ later last, Reach move? store later last →
    updates later = ((completed later).filterMap fun fetch => store.options.onFetchError.published? fetch.2) ∧
      last.board.snapshot = (updates later).getLast?.getD store.board.snapshot
  /-- As soon as all tasks wait after the next start, its loop has asked for a fresh list and its own
  attempt for a channel, however little time has passed. -/
  restarted : ∀ before found after last, Reach move? store (before ++ (found, .start) :: after) last →
    starts before = 0 → starts after = 0 → last.runnable = [] → ¬last.isCancelled found.runs.length →
      Restarted found.runs.length after

/-- What keeps the runs of a store apart. -/
structure Isolated (past : History) (store : LiveStore) : Prop where
  one_attempt : ∀ first second progress progress', store.channels.stage? first = some (.running progress) →
    store.channels.stage? second = some (.running progress') → first = second
  /-- Whatever opens a channel or has one open is bound to the last run. -/
  current : ∀ id progress, store.channels.stage? id = some (.running progress) →
    progress = .opening (starts past) ∨ ∃ channel confirmed, progress = .open (starts past) channel confirmed
  /-- No channel is open but for that of the attempt. -/
  accounted : ∀ channel, store.server.isUnreleased channel → channel ∈ store.server.granted ∨
    ∃ id confirmed, store.channels.stage? id = some (.running (.open (starts past) channel confirmed))
  /-- An earlier run can be shut down or its handle dropped, and nothing changes. -/
  earlier_run : ∀ run, run < starts past → store.move? (.cancel run) = some store
  dismissed : Dismissed past → Quiet store

section

variable (reach : Reach move? { options := options } past store) (rest : store.runnable = [])

include reach rest

/-- A channel that an attempt has open is bound to the last run. -/
theorem accounted_of_rest {channel : Nat} (unreleased : store.server.isUnreleased channel) :
    channel ∈ store.server.granted ∨ ∃ id confirmed,
      store.channels.stage? id = some (.running (.open store.currentRun channel confirmed)) := by
  refine ((custody_of_reach reach).accounted channel unreleased).imp_right ?_
  rintro ⟨id, holds⟩
  obtain ⟨stage, atId, holds⟩ := Option.bind_eq_some_iff.mp holds
  cases stage with
  | launched | returned | settled | resolved => cases holds
  | running progress =>
    rcases (current_of_running rest reach atId).2.2 with rfl | ⟨other, confirmed, rfl⟩
    · cases holds
    · cases holds
      exact ⟨id, confirmed, atId⟩

theorem quiet_of_dismissed (dismissed : Dismissed past) : Quiet store := by
  have dormant := dormant_of_dismissed reach rest dismissed
  refine ⟨fun _ _ => dormant.not_running, fun channel unreleased => ?_, ?_, ?_, ?_, ?_⟩
  · refine (accounted_of_rest reach rest unreleased).resolve_right ?_
    rintro ⟨id, confirmed, atId⟩
    exact dormant.not_running atId
  · intro later last onward noStart
    obtain ⟨still, noOpens, silent, sameOpens, sameHealth⟩ := dormant_of_reach dormant onward noStart
    exact ⟨noOpens, sameOpens, silent, sameHealth, fun _ _ => still.not_running⟩
  · intro before found after last onward rest'
    have whole := reach.append onward
    rw [← List.append_assoc] at whole
    exact served whole rfl rest'
  · exact fun later last onward => ⟨updates_of_reach onward, snapshot_of_updates onward⟩
  · intro before found after last onward noStart noStart' rest' alive
    obtain ⟨left, early, taken, late⟩ := onward.moment
    cases taken
    exact restarted_of_start (reach.append early) (dormant_of_reach dormant early noStart).1 late noStart' rest' alive

end

/-- Whatever has happened to a store, once all its tasks wait only the last run has a channel, if any. To cancel
an earlier run changes nothing, and once the last one is dismissed no channel is asked for until the next start,
while fresh lists are still fetched and published. -/
theorem isolated (reach : Reach move? { options := options } past store) (rest : store.runnable = []) :
    Isolated past store := by
  have current := (roster_of_reach reach).current_eq
  refine ⟨?_, ?_, ?_, ?_, quiet_of_dismissed reach rest⟩
  · intro first second progress progress' running running'
    have chronicle := chronicle_of_reach reach
    exact (chronicle.eq_of_running running).trans (chronicle.eq_of_running running').symm
  · intro id progress running
    rw [← current]
    exact (current_of_running rest reach running).2.2
  · intro channel unreleased
    rw [← current]
    exact accounted_of_rest reach rest unreleased
  · intro run replaced
    rw [← current] at replaced
    exact congrArg some (cancel_eq_self ((looping_of_reach reach).replaced run replaced))

/-- A second start lets go of the channel of the first run, and a shutdown of that of the second. -/
theorem isolated_after_two_starts :
    ∃ past store, Reach move? { options := {} } past store ∧ store.runnable = [] ∧ starts past = 2 ∧
      opens past = [0, 1] ∧ Dismissed past ∧ store.server.granted = [] ∧
      (∀ push ∈ store.server.channels, push.released) ∧ Isolated past store := by
  have reach : Reach move? { options := {} } _ _ :=
    .of_trail [.start, .step .work (.syncLoop 1), .step .work (.syncLoop 1), .step .work (.refresh 0),
      .step .work (.channel 0), .step .work (.channel 0), .grantChannel, .step .work (.channel 0), .start,
      .step .work (.channel 0), .step .work (.channel 0), .step .work (.channel 0),
      .step .cancellation (.syncLoop 1), .step .work (.syncLoop 2), .step .work (.syncLoop 2),
      .step .work (.channel 1), .step .work (.channel 1), .grantChannel, .step .work (.channel 1), .cancel 2,
      .step .work (.channel 1), .step .work (.channel 1), .step .work (.channel 1),
      .step .cancellation (.syncLoop 2)] rfl
  have dismissed : Dismissed _ := (looping_of_reach reach).current.mp (by decide)
  exact ⟨_, _, reach, rfl, rfl, rfl, dismissed, rfl, by decide, isolated reach rfl⟩

end SessionBoard.LiveStore
