import SessionBoard.Proofs.Store.Dormant

namespace SessionBoard.LiveStore

variable {store store' first last : LiveStore} {past later : History} {move : Move} {id run : Nat}

/-- An attempt that has only just begun calls for a channel before it does anything else. -/
theorem called_of_report {progress : ChannelProgress}
    (said : attemptMove? (store, move) = some (.report id progress)) :
    (∃ run, progress = .opening run) ∨
      ∃ before, store.channels.stage? id = some (.running before) ∧ ∀ run, before ≠ .bound run := by
  unfold attemptMove? at said
  split at said
  · rename_i preference other same
    cases same
    obtain ⟨store', taken, between⟩ := Option.bind_eq_some_iff.mp said
    cases stepChannel_cases taken with
    | begins begun => cases (SingleFlight.moveBetween?_begin begun).symm.trans between
    | abandons _ _ _ ended | fails _ ended => cases (SingleFlight.moveBetween?_finish ended).symm.trans between
    | asks _ reported =>
      cases (SingleFlight.moveBetween?_report reported).symm.trans between
      exact .inl ⟨_, rfl⟩
    | answered atId _ reported | takes atId _ reported | confirms atId reported | updates atId reported
    | ignores atId _ reported =>
      cases (SingleFlight.moveBetween?_report reported).symm.trans between
      exact .inr ⟨_, atId, by simp⟩
    | unwinds unwinds =>
      rcases SingleFlight.moveBetween?_unwind unwinds with ⟨same, _⟩ | ⟨same, _⟩ <;>
        cases same.symm.trans between
  · split at said <;> cases said
  · cases said

/-- The attempts that have called, against how far each of them has come. -/
structure Opened (past : History) (store : LiveStore) : Prop where
  running : ∀ id progress, store.channels.stage? id = some (.running progress) →
    (∃ run, progress = .bound run) ∨ id ∈ opens past
  failed : ∀ id, id ∈ failed past → id ∈ opens past

theorem Opened.next (opened : Opened past store) (taken : store.move? move = some store') :
    Opened (past ++ [(store, move)]) store' where
  running := by
    intro id progress running
    obtain ⟨attempting, follows⟩ := attempting_of_move taken
    rw [opens_concat, List.mem_append, Option.mem_toList]
    have kept : ∀ {progress}, store.channels.stage? id = some (.running progress) →
        (∃ run, progress = .bound run) ∨ id ∈ opens past ∨ id ∈ open? (store, move) := fun before =>
      (opened.running id _ before).imp_right .inl
    cases said : attemptMove? (store, move) with
    | none =>
      rw [said] at follows
      rw [← Option.some.inj follows] at running
      exact kept running
    | some attemptMove =>
      rw [said] at follows attempting
      rcases SingleFlight.running_of_move follows running with rfl | rfl | ⟨before, _⟩
      · generalize greeted? (store, move) = hears, signal? (store, move) = tells at attempting
        cases attempting
        exact .inl ⟨_, rfl⟩
      · rcases called_of_report said with ⟨run, rfl⟩ | ⟨before, atId, notBound⟩
        · refine .inr (.inr ?_)
          rw [open?, said]
        · refine .inr (.inl ((opened.running id before atId).resolve_left ?_))
          rintro ⟨run, isBound⟩
          exact notBound run isBound
      · exact kept before
  failed := by
    intro id failure
    rw [opens_concat, List.mem_append]
    rw [failed_concat, List.mem_append, Option.mem_toList] at failure
    refine .inl ?_
    rcases failure with earlier | now
    · exact opened.failed id earlier
    · obtain ⟨attempting, _⟩ := attempting_of_move taken
      obtain ⟨ended, found, isFailure⟩ := Option.bind_eq_some_iff.mp now
      obtain ⟨attemptMove, said, isEnd⟩ := Option.bind_eq_some_iff.mp found
      rw [said] at attempting
      generalize greeted? (store, move) = hears, signal? (store, move) = tells at attempting
      cases attempting with
      | failed atId =>
        cases isEnd
        cases isFailure
        exact (opened.running _ _ atId).resolve_left (by simp)
      | abandoned =>
        cases isEnd
        cases isFailure
      | launched | begun | goesOn | repeated | confirmed | settled | resolved => cases isEnd

theorem opened_of_reach {options : SyncOptions} (reach : Reach move? { options := options } past store) :
    Opened past store := by
  induction reach with
  | start => exact ⟨by simp [SingleFlight.stage?], by simp [LiveStore.failed, attemptHistory, SingleFlight.History.ended]⟩
  | next _ taken ih => exact ih.next taken

theorem isCancelled_of_reach (reach : Reach move? first later last) (cancelled : first.isCancelled run) :
    last.isCancelled run :=
  reach.invariant (fun store => store.isCancelled run) cancelled fun _ _ _ cancelled taken =>
    ((rostering_of_move taken).isCancelled_iff run).mpr (.inl cancelled)

theorem channels_length_le_of_reach (reach : Reach move? first later last) :
    first.channels.executions.length ≤ last.channels.executions.length :=
  reach.invariant (fun store => first.channels.executions.length ≤ store.channels.executions.length)
    (Nat.le_refl _) fun _ _ _ le taken => Nat.le_trans le (channels_length_le_of_move taken)

/-- Where there was no attempt under way, every attempt under way is bound to the run of that time, until
another one is started. -/
theorem bound_of_reach (reach : Reach move? first later last) (noStart : starts later = 0)
    (none : ∀ id progress, first.channels.stage? id ≠ some (.running progress)) :
    last.currentRun = first.currentRun ∧ ∀ id progress run,
      last.channels.stage? id = some (.running progress) → progress.run? = some run → run = first.currentRun := by
  induction reach with
  | start => exact ⟨rfl, fun id progress _ running => absurd running (none id progress)⟩
  | @next later store move store' _ taken ih =>
    obtain ⟨noStart, notNow⟩ := Roster.starts_concat_eq_zero.mp noStart
    obtain ⟨current, bound⟩ := ih noStart
    have current' : store'.currentRun = store.currentRun := by
      cases rostering_of_move taken with
      | started => cases notNow
      | cancelled _ same | looped _ _ _ same | kept _ _ _ same => exact same
    refine ⟨current'.trans current, fun id progress run running atRun => ?_⟩
    obtain ⟨attempting, follows⟩ := attempting_of_move taken
    generalize attemptMove? (store, move) = said at attempting follows
    generalize greeted? (store, move) = hears, signal? (store, move) = tells at attempting
    cases said with
    | none =>
      rw [← Option.some.inj follows] at running
      exact bound id progress run running atRun
    | some attemptMove =>
      rcases SingleFlight.running_of_move follows running with rfl | rfl | ⟨before, _⟩
      · cases attempting
        cases atRun
        exact current
      · cases attempting with
        | goesOn before _ sameRun _ => exact bound id _ run before (sameRun run atRun)
        | repeated before | confirmed before => exact bound id _ run before atRun
      · exact bound id progress run before atRun

/-- Where all attempts have resolved, all of them have ended. -/
theorem Unattended.ended_length {spared : Nat → Prop} (unattended : store.Unattended spared)
    (chronicle : SingleFlight.Chronicle (attemptHistory past) store.channels) :
    (attemptHistory past).ended.length = store.channels.executions.length := by
  refine Nat.le_antisymm chronicle.ended_first.le (Nat.not_lt.mp fun less => ?_)
  have atId := List.getElem?_eq_getElem less
  obtain ⟨outcome, resolved⟩ := unattended.resolved atId
  have ended : (store.channels.executions[(attemptHistory past).ended.length]).ending?.isSome := by
    rw [resolved]
    rfl
  exact Nat.lt_irrefl _ ((chronicle.ended_first.iff atId).mp ended)

theorem reach_of_start {options : SyncOptions} (reach : Reach move? { options := options } past store)
    (onward : Reach move? store.start.1 later last) :
    Reach move? { options := options } (past ++ (store, .start) :: later) last := by
  rw [List.append_cons]
  exact (reach.next rfl).append onward

theorem ended_length_le_append (past later : History) :
    (attemptHistory past).ended.length ≤ (attemptHistory (past ++ later)).ended.length := by
  have whole : (attemptHistory (past ++ later)).ended = (attemptHistory past).ended ++ (attemptHistory later).ended := by
    simp only [attemptHistory, SingleFlight.History.ended, List.filterMap_append]
  rw [whole, List.length_append]
  exact Nat.le_add_right ..

/-- Of a store with nobody to look after a channel only the new loop is spared by a start. -/
theorem unattended_start (dormant : store.Dormant) : store.start.1.Unattended (· = store.runs.length) where
  loops := by
    intro run stage atRun
    have started : Rostering store store.start.1 .start := .started rfl rfl
    rcases started.loopStage_eq run with ⟨_, ⟨⟩⟩ | same | ⟨unknown, _⟩
    · exact .inl ((dormant.loops run stage (same ▸ atRun)).resolve_right id)
    · have known := lt_of_loopStage? atRun
      have grown : store.start.1.runs.length = store.runs.length + 1 := by
        rw [start, List.length_append, length_cancelRun, List.length_singleton]
      have missing : store.runs.length ≤ run := by
        rw [← Nat.not_lt]
        intro isKnown
        simp [loopStage?, isKnown] at unknown
      exact .inr (by omega)
  slot := dormant.slot
  attempts := dormant.attempts

/-- Until a loop that is spared asks for one there is no new attempt. -/
theorem Unattended.of_reach {spared : Nat → Prop} (unattended : first.Unattended spared)
    (reach : Reach move? first later last) (noStart : starts later = 0)
    (noRequest : ∀ run, spared run → .requestsChannel ∉ loopActs run later) :
    last.Unattended spared ∧ last.channels = first.channels := by
  induction reach with
  | start => exact ⟨unattended, rfl⟩
  | @next later store move store' _ taken ih =>
    obtain ⟨noStart, notNow⟩ := Roster.starts_concat_eq_zero.mp noStart
    simp only [loopActs_concat, List.mem_append, Option.mem_toList, not_or] at noRequest
    obtain ⟨still, same⟩ := ih noStart fun run isSpared => (noRequest run isSpared).1
    obtain ⟨still', same'⟩ := still.next taken notNow fun run isSpared => (noRequest run isSpared).2
    exact ⟨still', same'.trans same⟩

/-- What has come of a start once all tasks wait, in a store with nobody to look after a push channel. The new
loop has asked for a fresh list and then for a channel, and the attempt that it was given is its own and has
opened one, before the clock had to move. -/
structure Restarted (run : Nat) (later : History) : Prop where
  /-- The loop has asked for a fresh list and then for a channel. -/
  cycle : [.requestsList, .requestsChannel] <+: loopActs run later
  listed : ∃ found move, (found, move) ∈ later ∧ loopAct? run (found, move) = some .requestsList ∧
    fetchEvent? (found, move) = some (.requested found.refresh.2)
  /-- It was given an attempt of its own, which is bound to its run and has called for a channel. -/
  opened : ∃ id, (run, id) ∈ launches later ∧ ∃ found move, (found, move) ∈ later ∧
    open? (found, move) = some id ∧ found.channels.stage? id = some (.running (.bound run))

section

variable {options : SyncOptions} (reach : Reach move? { options := options } past store)
  (dormant : store.Dormant) (onward : Reach move? store.start.1 later last) (noStart : starts later = 0)
  (rest : last.runnable = []) (alive : ¬last.isCancelled store.runs.length)

include dormant onward noStart

/-- The first attempt since a start is launched by the new loop. -/
theorem launched_of_start (cycle : [.requestsList, .requestsChannel] <+: loopActs store.runs.length later) :
    (store.runs.length, store.channels.executions.length) ∈ launches later ∧
      ∃ found move, (found, move) ∈ later ∧ loopAct? store.runs.length (found, move) = some .requestsList := by
  obtain ⟨before, ⟨found, move⟩, after, rfl, ⟨⟨listed, listing⟩, member, list⟩, channel, first⟩ :=
    moments_of_acts cycle
  refine ⟨?_, listed, listing, List.mem_append_left _ member, list⟩
  obtain ⟨_, earlier, taken, _⟩ := onward.moment
  have none : starts before = 0 := by
    have := starts_le_append before ((found, move) :: after)
    omega
  obtain ⟨still, same⟩ := (unattended_start dormant).of_reach earlier none fun run isNew => isNew ▸ first
  obtain ⟨preference, rfl, requested⟩ := stage_of_act channel
  refine List.mem_filterMap.mpr ⟨_, List.mem_append_right _ List.mem_cons_self, ?_⟩
  have sameCount : store.channels.executions.length = found.channels.executions.length := by
    rw [same]
    rfl
  simp [launch?, requested, SingleFlight.History.launched?, SingleFlight.trigger, still.slot, sameCount]

include reach

/-- The new attempt does not end because its run was cancelled. -/
theorem not_abandoned (alive : ¬last.isCancelled store.runs.length) :
    (store.channels.executions.length, some (.ok ())) ∉ (attemptHistory (past ++ (store, .start) :: later)).ended := by
  intro ended
  have whole := reach_of_start reach onward
  rcases ended_how whole ended with ⟨_, wrong, _⟩ |
    ⟨_, _, found, move, progress, run, channel, passed, _, atId, bound, cancelled⟩
  · cases wrong
  · have within := SingleFlight.stage?_lt atId
    rcases List.mem_append.mp passed with early | passed
    · obtain ⟨before, after, found', rfl, _, taken⟩ := reach.moment_of_mem early
      obtain ⟨left, _, taken', rest⟩ := reach.moment
      have := Nat.le_trans (channels_length_le_of_move taken') (channels_length_le_of_reach rest)
      omega
    · rcases List.mem_cons.mp passed with same | passed
      · cases same
        exact Nat.lt_irrefl _ within
      · obtain ⟨before, after, found', rfl, earlier, taken⟩ := onward.moment_of_mem passed
        obtain ⟨left, _, taken', rest⟩ := onward.moment
        have none : starts before = 0 := by
          have := starts_le_append before ((found, move) :: after)
          omega
        obtain ⟨_, own⟩ := bound_of_reach earlier none fun _ _ => (unattended_start dormant).not_running
        cases own _ progress run atId bound.run_eq
        exact alive (isCancelled_of_reach (.append (.next .start taken') rest) cancelled)

/-- Once all tasks wait the new attempt has begun, and has called. -/
theorem opened_of_start (rest : last.runnable = []) (alive : ¬last.isCancelled store.runs.length)
    (launched : store.channels.executions.length < last.channels.executions.length) :
    store.channels.executions.length ∈ opens later := by
  have whole := reach_of_start reach onward
  have chronicle := chronicle_of_reach whole
  have opened := opened_of_reach whole
  have allEnded := Unattended.ended_length dormant (chronicle_of_reach reach)
  have ended_le := ended_length_le_append past ((store, .start) :: later)
  have called : store.channels.executions.length ∈ opens (past ++ (store, .start) :: later) := by
    obtain ⟨stage, atId⟩ : ∃ stage, last.channels.stage? store.channels.executions.length = some stage :=
      ⟨_, List.getElem?_eq_getElem launched⟩
    have ended : ∀ outcome, stage.ending? = some outcome →
        store.channels.executions.length ∈ opens (past ++ (store, .start) :: later) := by
      intro outcome ending
      have member := chronicle.mem_ended atId ending
      rcases ended_how whole member with ⟨error, rfl, _⟩ | ⟨rfl, _⟩
      · exact opened.failed _ (mem_failed.mpr ⟨error, member⟩)
      · exact absurd member (not_abandoned reach dormant onward noStart alive)
    cases stage with
    | launched after =>
      -- All attempts before the new one have ended, so it does not have to wait for any of them.
      cases channels_resting rest whole with
      | idle _ resolved =>
        have wrong := resolved _ launched
        simp [SingleFlight.outcome?, atId] at wrong
      | @busy current progress running resolved =>
        have turn := chronicle.eq_of_running running
        rcases Nat.lt_or_eq_of_le (by omega : store.channels.executions.length ≤ current) with earlier | same
        · have wrong := resolved _ earlier
          simp [SingleFlight.outcome?, atId] at wrong
        · rw [← same, atId] at running
          cases running
    | running progress =>
      refine (opened.running _ progress atId).resolve_left ?_
      rintro ⟨run, rfl⟩
      rcases waiting_of_running rest atId with ⟨_, wrong, _⟩ | ⟨_, _, _, wrong, _⟩ <;> cases wrong
    | returned | settled | resolved => exact ended _ rfl
  rw [opens, List.filterMap_append, List.filterMap_cons_none rfl, List.mem_append] at called
  refine called.resolve_left fun early => ?_
  have begun := (called_of_reach reach).begun early
  have known := (chronicle_of_reach reach).begun_first.le
  omega

/-- A start in a store with nobody to look after a channel is followed by all that a cycle begins with. -/
theorem restarted_of_start (rest : last.runnable = []) (alive : ¬last.isCancelled store.runs.length) :
    Restarted store.runs.length later := by
  have whole := reach_of_start reach onward
  have ready : store.start.1.loopStage? store.runs.length = some .ready := by
    simp [loopStage?, start, length_cancelRun]
  obtain ⟨stage, atRun, course⟩ := course_of_reach onward ready
  have cycle := course.both_asked <| by
    have known := (roster_of_reach reach).length_eq
    have stopped : stage ≠ .stopped := by
      rintro rfl
      exact alive ((looping_of_reach whole).stopped _ (by omega) atRun)
    have waits := waiting_of_loop rest atRun
    refine ⟨?_, ?_, stopped⟩ <;> rintro rfl <;> simp at waits
  obtain ⟨launched, found, move, member, list⟩ := launched_of_start dormant onward noStart cycle
  have launch : (store.runs.length, store.channels.executions.length) ∈ launches (past ++ (store, .start) :: later) := by
    rw [launches, List.filterMap_append, List.filterMap_cons_none rfl]
    exact List.mem_append_right _ launched
  have opened := opened_of_start reach dormant onward noStart rest alive
    (launched_lt (chronicle_of_reach whole) launch)
  obtain ⟨⟨found', move'⟩, passed, opens⟩ := List.mem_filterMap.mp opened
  refine ⟨cycle, ⟨found, move, member, list, requested_of_act list⟩, _, launched, found', move', passed, opens, ?_⟩
  obtain ⟨before, after, left, rfl, earlier, taken⟩ := onward.moment_of_mem passed
  obtain ⟨run, bound⟩ := bound_of_open taken opens
  have none : starts before = 0 := by
    have := starts_le_append before ((found', move') :: after)
    omega
  obtain ⟨_, own⟩ := bound_of_reach earlier none fun _ _ => (unattended_start dormant).not_running
  rw [bound]
  cases own _ _ run bound rfl
  rfl

end

end SessionBoard.LiveStore
