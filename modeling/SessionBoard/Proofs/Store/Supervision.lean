import SessionBoard.Proofs.Store.Cycle
import SessionBoard.Proofs.Store.Independence
import SessionBoard.Proofs.Store.Rest

namespace SessionBoard.LiveStore

/-- What the one loop waits for. -/
inductive Waits (store : LiveStore) : LoopStage → Prop
  /-- An attempt is under way, and the loop waits for it or for the one that comes next. -/
  | attempt {flight id progress} (running : store.channels.stage? id = some (.running progress))
      (opens : progress = .opening store.currentRun ∨
        ∃ channel confirmed, progress = .open store.currentRun channel confirmed)
      (turn : flight = id ∨ store.channels.stage? flight = some (.launched (some id))) :
      Waits store (.awaiting flight)
  | clock {deadline} (ahead : store.now < deadline) (soon : deadline ≤ store.now + store.options.backoff) :
      Waits store (.sleeping deadline)

/-- What keeps the store going as long as its last run is neither shut down nor dropped. -/
structure Supervised (past : History) (store : LiveStore) : Prop where
  /-- Of all loops that of the last run is alive, and no other. -/
  one_alive : ∀ run, (∃ stage, store.loopStage? run = some stage ∧ stage ≠ .stopped) ↔ run = starts past
  waits : ∃ stage, store.loopStage? (starts past) = some stage ∧ Waits store stage
  /-- After a sleep the loop asks for a fresh list before it asks for a channel. -/
  list_first : ∀ deadline, store.loopStage? (starts past) = some (.sleeping deadline) →
    ∀ later last, Reach move? store later last →
      ∀ before after, loopActs (starts past) later = before ++ .requestsChannel :: after →
        [.wakes, .requestsList] <+: before
  /-- Once its deadline has passed and all tasks wait again, it has asked for both. -/
  wakes : ∀ deadline, store.loopStage? (starts past) = some (.sleeping deadline) →
    ∀ later last, Reach move? store later last → last.runnable = [] → deadline ≤ last.now →
      ¬last.isCancelled (starts past) →
        [.wakes, .requestsList, .requestsChannel] <+: loopActs (starts past) later
  /-- What a loop asks for is what the fetches and the attempts are asked for. -/
  asks : ∀ run found move,
    (loopAct? run (found, move) = some .requestsList →
      fetchEvent? (found, move) = some (.requested found.refresh.2)) ∧
    (loopAct? run (found, move) = some .requestsChannel → attemptMove? (found, move) = some .trigger)
  /-- Whatever becomes of the fetches, with all that happens to them left out the loops and the attempts
  take the same steps at the same times. -/
  undelayed : ∀ later last, Reach move? store later last →
    ∃ later' last', Reach move? store later' last' ∧
      later'.map Prod.snd = (later.map Prod.snd).filter (!·.isOfFetches) ∧
      last.withoutFetches = last'.withoutFetches

variable {store last : LiveStore} {past later : History} {options : SyncOptions}

section

variable (reach : Reach move? { options := options } past store) (rest : store.runnable = [])

include reach rest

/-- Where all tasks wait the loop of every run but the last one has stopped. -/
theorem current_of_alive {run : Nat} {stage : LoopStage} (atRun : store.loopStage? run = some stage)
    (going : stage ≠ .stopped) : run = store.currentRun := by
  have roster := roster_of_reach reach
  have known := lt_of_loopStage? atRun
  have length := roster.length_eq
  have current := roster.current_eq
  rcases waiting_of_loop rest atRun with stopped | ⟨alive, _⟩
  · exact absurd stopped going
  · have notReplaced : ¬run < store.currentRun := fun replaced =>
      alive ((looping_of_reach reach).replaced run replaced)
    omega

/-- The flight that a loop waits for is that of the attempt under way or of the one after it. -/
theorem waits_of_awaiting {run flight : Nat} (atRun : store.loopStage? run = some (.awaiting flight)) :
    Waits store (.awaiting flight) := by
  have known := (looping_of_reach reach).awaiting run flight atRun
  obtain ⟨_, unresolved⟩ : ¬store.isCancelled run ∧ store.channels.outcome? flight = none := by
    simpa using waiting_of_loop rest atRun
  have notResolved : ¬(store.channels.outcome? flight).isSome := by simp [unresolved]
  cases channels_resting rest reach with
  | idle _ resolved => exact absurd (resolved flight known) notResolved
  | @busy current progress running resolved waiting =>
    have opens := (current_of_running rest reach running).2.2
    rcases Nat.lt_trichotomy flight current with earlier | rfl | later
    · exact absurd (resolved flight earlier) notResolved
    · exact .attempt running opens (.inl rfl)
    · exact .attempt running opens (.inr (waiting flight later known).2)

end

/-- The loop of the last run goes on as long as nobody dismisses the run. -/
theorem going_of_reach (reach : Reach move? { options := options } past store) (started : 0 < starts past)
    (going : ¬Dismissed past) :
    ∃ stage, store.loopStage? (starts past) = some stage ∧ stage ≠ .stopped := by
  have roster := roster_of_reach reach
  have looping := looping_of_reach reach
  have known : starts past < store.runs.length := by
    rw [roster.length_eq]
    exact Nat.lt_succ_self _
  refine ⟨store.runs[starts past].stage, ?_, fun stopped => ?_⟩
  · rw [loopStage?, List.getElem?_eq_getElem known, Option.map_some]
  · have atRun : store.loopStage? (starts past) = some .stopped := by
      rw [loopStage?, List.getElem?_eq_getElem known, Option.map_some, stopped]
    have cancelled := looping.stopped _ started atRun
    rw [← roster.current_eq] at cancelled
    exact going (looping.current.mp cancelled)

/-- The loop that is to wake up has slept, or it could not wait. -/
theorem acts_of_sleeping {run deadline : Nat} (reach : Reach move? store later last)
    (sleeping : store.loopStage? run = some (.sleeping deadline)) (rest : last.runnable = [])
    (due : deadline ≤ last.now) (going : ¬last.isCancelled run)
    (stoppedOnly : last.loopStage? run = some .stopped → last.isCancelled run) :
    [.wakes, .requestsList, .requestsChannel] <+: loopActs run later := by
  obtain ⟨stage, atRun, course⟩ := course_of_reach reach sleeping
  have waits := waiting_of_loop rest atRun
  rcases course.of_sleeping with ⟨_, rfl⟩ | ⟨_, rfl⟩ | ⟨acts, woken, onward⟩
  · obtain ⟨_, ahead⟩ : ¬last.isCancelled run ∧ last.now < deadline := by simpa using waits
    omega
  · exact absurd (stoppedOnly atRun) going
  · have asked := onward.both_asked <| by
      refine ⟨?_, ?_, ?_⟩ <;> rintro rfl
      · simp at waits
      · simp at waits
      · exact going (stoppedOnly atRun)
    rw [woken]
    exact List.cons_prefix_cons.mpr ⟨rfl, asked⟩

/-- Whatever has happened to a store, once all its tasks wait and its last run is neither shut down nor dropped,
one loop is alive, and what it waits for is under way: an attempt, at most with one more in between, or the end
of a sleep of the backoff at most. No fetch is ever in its way. -/
theorem supervised (reach : Reach move? { options := options } past store) (rest : store.runnable = [])
    (started : 0 < starts past) (going : ¬Dismissed past) : Supervised past store := by
  have looping := looping_of_reach reach
  have current := (roster_of_reach reach).current_eq
  obtain ⟨stage, atRun, alive⟩ := going_of_reach reach started going
  refine ⟨fun run => ?_, ⟨stage, atRun, ?_⟩, ?_, ?_, ?_, ?_⟩
  · constructor
    · rintro ⟨stage', atRun', going'⟩
      rw [← current]
      exact current_of_alive reach rest atRun' going'
    · rintro rfl
      exact ⟨stage, atRun, alive⟩
  · rcases waiting_of_loop rest atRun with stopped | ⟨_, ⟨flight, rfl, _⟩ | ⟨deadline, rfl, ahead⟩⟩
    · exact absurd stopped alive
    · exact waits_of_awaiting reach rest atRun
    · have soon : deadline ≤ store.now + store.options.backoff := by
        rw [options_of_reach reach]
        exact looping.sleeping _ deadline atRun
      exact .clock ahead soon
  · intro deadline sleeping later last onward before after asks
    obtain ⟨_, _, course⟩ := course_of_reach onward sleeping
    exact course.list_first_of_sleeping asks
  · intro deadline sleeping later last onward rest' due going'
    refine acts_of_sleeping onward sleeping rest' due going' fun stopped => ?_
    exact (looping_of_reach (reach.append onward)).stopped _ started stopped
  · exact fun run found move => ⟨requested_of_act, triggered_of_act⟩
  · exact fun later last onward => reach_withoutFetches onward

/-- A second start comes before the first attempt has begun: the attempt belongs to the second run, whose
loop waits for the attempt after it. The fetch hangs. -/
theorem supervised_behind_another :
    ∃ past store, Reach move? { options := {} } past store ∧ store.runnable = [] ∧ starts past = 2 ∧
      ¬Dismissed past ∧ store.loopStage? 2 = some (.awaiting 1) ∧
      store.channels.stage? 0 = some (.running (.opening 2)) ∧
      store.refreshes.stage? 0 = some (.running .asked) ∧ Supervised past store := by
  have reach : Reach move? { options := {} } _ _ :=
    .of_trail [.start, .step .work (.syncLoop 1), .step .work (.syncLoop 1), .start,
      .step .cancellation (.syncLoop 1), .step .work (.syncLoop 2), .step .work (.syncLoop 2),
      .step .work (.channel 0), .step .work (.channel 0), .step .work (.refresh 0)] rfl
  have going : ¬Dismissed _ := fun dismissed => absurd ((looping_of_reach reach).current.mpr dismissed) (by decide)
  exact ⟨_, _, reach, rfl, rfl, going, rfl, rfl, rfl, supervised reach rfl (by decide) going⟩

end SessionBoard.LiveStore
