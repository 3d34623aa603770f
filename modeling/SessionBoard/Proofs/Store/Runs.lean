import SessionBoard.Proofs.Store.Attempts

namespace SessionBoard.LiveStore

def Move.isStart : Move → Bool
  | .start => true
  | _ => false

/-- The run that is shut down, or whose handle is dropped. -/
def Move.cancelled? : Move → Option Nat
  | .cancel run => some run
  | _ => none

/-- How often the store was started. -/
def starts (past : History) : Nat :=
  past.countP (·.2.isStart)

/-- The runs that were shut down or whose handles were dropped. -/
def shutDown (past : History) : List Nat :=
  past.filterMap (·.2.cancelled?)

variable {store store' : LiveStore} {past : History}

theorem starts_le_append (past later : History) : starts past ≤ starts (past ++ later) := by
  rw [starts, starts, List.countP_append]
  exact Nat.le_add_right ..

theorem getElem?_cancelRun (runs : List Run) (run other : Nat) :
    (cancelRun runs run)[other]? =
      (runs[other]?).map fun state => if other = run then { state with cancelled := true } else state := by
  rw [cancelRun, List.getElem?_modify]
  cases runs[other]? <;> simp [eq_comm]

theorem length_cancelRun (runs : List Run) (run : Nat) : (cancelRun runs run).length = runs.length := by
  rw [cancelRun, List.length_modify]

/-- A cancellation is no step of the loop. -/
theorem stage_cancelRun (runs : List Run) (run other : Nat) :
    ((cancelRun runs run)[other]?).map Run.stage = (runs[other]?).map Run.stage := by
  rw [getElem?_cancelRun, Option.map_map]
  congr 1
  funext state
  by_cases same : other = run <;> simp [same]

theorem loopStage?_withLoop (store : LiveStore) (run : Nat) (stage : LoopStage) (other : Nat) :
    (store.withLoop run stage).loopStage? other =
      (store.loopStage? other).map fun earlier => if other = run then stage else earlier := by
  simp only [loopStage?, withLoop, List.getElem?_modify]
  cases store.runs[other]? with
  | none => rfl
  | some state => by_cases same : run = other <;> simp [same, eq_comm]

theorem eq_of_loopStage?_withLoop {run : Nat} {stage stage' : LoopStage}
    (atRun : (store.withLoop run stage).loopStage? run = some stage') : stage' = stage := by
  rw [loopStage?_withLoop] at atRun
  obtain ⟨_, _, same⟩ := Option.map_eq_some_iff.mp atRun
  simpa using same.symm

theorem lt_of_loopStage? {run : Nat} {stage : LoopStage} (atRun : store.loopStage? run = some stage) :
    run < store.runs.length := by
  obtain ⟨state, atState, _⟩ := Option.map_eq_some_iff.mp atRun
  exact (List.getElem?_eq_some_iff.mp atState).1

theorem isCancelled_withLoop (store : LiveStore) (run : Nat) (stage : LoopStage) (other : Nat) :
    (store.withLoop run stage).isCancelled other = store.isCancelled other := by
  simp only [isCancelled, withLoop, List.getElem?_modify]
  cases store.runs[other]? with
  | none => rfl
  | some state => by_cases same : run = other <;> simp [same]

/-- A start adds a run and cancels the current one, a cancellation spares the loops, a loop changes its
own stage, and nothing else touches the runs. -/
inductive Rostering (store store' : LiveStore) : Move → Prop
  | started (runs : store'.runs = cancelRun store.runs store.currentRun ++ [({} : Run)])
      (current : store'.currentRun = store.runs.length) : Rostering store store' .start
  | cancelled {run} (runs : store'.runs = cancelRun store.runs run)
      (current : store'.currentRun = store.currentRun) : Rostering store store' (.cancel run)
  | looped {preference run stage earlier} (atRun : store.loopStage? run = some earlier)
      (going : earlier ≠ .stopped) (runs : store'.runs = (store.withLoop run stage).runs)
      (current : store'.currentRun = store.currentRun) :
      Rostering store store' (.step preference (.syncLoop run))
  | kept {move} (notStarted : move.isStart = false) (notCancelled : move.cancelled? = none)
      (runs : store'.runs = store.runs) (current : store'.currentRun = store.currentRun) :
      Rostering store store' move

theorem rostering_of_move {move : Move} (taken : store.move? move = some store') :
    Rostering store store' move := by
  cases move with
  | start =>
    cases taken
    exact .started rfl rfl
  | cancel run =>
    cases taken
    exact .cancelled rfl rfl
  | receive subscriber =>
    obtain ⟨_, _, rfl⟩ := Option.map_eq_some_iff.mp taken
    exact .kept rfl rfl rfl rfl
  | step preference task =>
    cases task with
    | refresh id =>
      obtain ⟨_, _, _, rfl, _⟩ := (stepRefresh_cases taken).frame
      exact .kept rfl rfl rfl rfl
    | channel id => cases stepChannel_cases taken <;> exact .kept rfl rfl rfl rfl
    | syncLoop run =>
      have going : ∃ earlier, store.loopStage? run = some earlier ∧ earlier ≠ .stopped := by
        simp only [move?, step, stepLoop] at taken
        split at taken
        case h_5 => cases taken
        case h_6 => cases taken
        all_goals exact ⟨_, by assumption, by simp⟩
      obtain ⟨earlier, atRun, going⟩ := going
      cases stepLoop_cases taken <;> exact .looped atRun going rfl rfl
  | _ =>
    cases taken
    exact .kept rfl rfl rfl rfl

namespace Rostering

variable {move : Move} (step : Rostering store store' move)

include step

/-- A loop keeps its stage but for its own steps, and a new one is ready to begin. -/
theorem loopStage_eq (run : Nat) :
    (∃ preference, move = .step preference (.syncLoop run)) ∨
      store'.loopStage? run = store.loopStage? run ∨
        store.loopStage? run = none ∧ store'.loopStage? run = some .ready := by
  cases step with
  | started runs =>
    rcases Nat.lt_trichotomy run store.runs.length with known | rfl | unknown
    · refine .inr (.inl ?_)
      rw [loopStage?, runs, List.getElem?_append_left (by rwa [length_cancelRun]), stage_cancelRun,
        loopStage?]
    · refine .inr (.inr ⟨?_, ?_⟩)
      · simp [loopStage?]
      · have last := Nat.le_of_eq (length_cancelRun store.runs store.currentRun)
        rw [loopStage?, runs, List.getElem?_append_right last, length_cancelRun, Nat.sub_self]
        rfl
    · refine .inr (.inl ?_)
      have outside : store'.runs.length ≤ run := by
        rw [runs, List.length_append, length_cancelRun]
        exact unknown
      rw [loopStage?, loopStage?, List.getElem?_eq_none outside, List.getElem?_eq_none (Nat.le_of_lt unknown)]
  | @cancelled other runs =>
    refine .inr (.inl ?_)
    rw [loopStage?, runs, stage_cancelRun, loopStage?]
  | @looped preference other stage earlier atRun going runs =>
    by_cases same : run = other
    · subst same
      exact .inl ⟨preference, rfl⟩
    · refine .inr (.inl ?_)
      rw [loopStage?, runs, ← loopStage?, loopStage?_withLoop]
      simp [same]
  | kept _ _ runs =>
    refine .inr (.inl ?_)
    rw [loopStage?, runs, loopStage?]

theorem length_le : store.runs.length ≤ store'.runs.length := by
  cases step with
  | started runs =>
    rw [runs, List.length_append, length_cancelRun]
    exact Nat.le_add_right ..
  | cancelled runs => exact Nat.le_of_eq (by rw [runs, length_cancelRun])
  | looped _ _ runs => exact Nat.le_of_eq (by rw [runs, withLoop, List.length_modify])
  | kept _ _ runs => exact Nat.le_of_eq (by rw [runs])

theorem isCancelled_of_next {run : Nat} (cancelled : store'.isCancelled run) :
    store.isCancelled run ∨ move.cancelled? = some run ∨ move.isStart ∧ run < store'.currentRun := by
  cases step with
  | started runs current =>
    refine .inr (.inr ⟨rfl, ?_⟩)
    rw [current, ← Nat.not_le]
    intro unknown
    rw [isCancelled, runs, List.getElem?_append_right (by rwa [length_cancelRun]), length_cancelRun,
      List.getElem?_singleton] at cancelled
    split at cancelled <;> simp at cancelled
  | @cancelled other runs =>
    by_cases same : run = other
    · subst same
      exact .inr (.inl rfl)
    · refine .inl ?_
      rw [isCancelled, runs, getElem?_cancelRun] at cancelled
      simpa [isCancelled, same] using cancelled
  | looped _ _ runs =>
    refine .inl ?_
    rwa [isCancelled, runs, ← isCancelled, isCancelled_withLoop] at cancelled
  | kept _ _ runs =>
    refine .inl ?_
    rwa [isCancelled, runs, ← isCancelled] at cancelled

end Rostering

/-- What a history says of the runs, against the runs of the store and of its attempts: how many have been
started, which of them can be cancelled and which of them an attempt can be bound to. -/
structure Roster (past : History) (store : LiveStore) : Prop where
  length_eq : store.runs.length = starts past + 1
  current_eq : store.currentRun = starts past
  /-- The loop before any start never runs. -/
  first_stopped : store.loopStage? 0 = some .stopped
  cancelled : ∀ run, store.isCancelled run → run < store.currentRun ∨ run ∈ shutDown past
  started : 0 < store.channels.executions.length → 0 < store.currentRun
  bound : ∀ id progress run, store.channels.stage? id = some (.running progress) →
    progress.run? = some run → 0 < run ∧ run ≤ store.currentRun

namespace Roster

theorem start (options : SyncOptions) : Roster [] { options := options } where
  length_eq := rfl
  current_eq := rfl
  first_stopped := rfl
  cancelled := by
    intro run cancelled
    rcases run with _ | run <;> simp [isCancelled] at cancelled
  started := by simp
  bound := by simp [SingleFlight.stage?]

variable {move : Move} (roster : Roster past store) (taken : store.move? move = some store')

theorem starts_concat (past : History) (moment : LiveStore × Move) :
    starts (past ++ [moment]) = starts past + if moment.2.isStart then 1 else 0 := by
  rw [starts, List.countP_append, List.countP_singleton]
  rfl

/-- Nothing has been started, and now neither. -/
theorem starts_concat_eq_zero {moment : LiveStore × Move} :
    starts (past ++ [moment]) = 0 ↔ starts past = 0 ∧ moment.2.isStart = false := by
  rw [starts_concat, Nat.add_eq_zero_iff]
  cases moment.2.isStart <;> simp

theorem shutDown_concat (past : History) (moment : LiveStore × Move) :
    shutDown (past ++ [moment]) = shutDown past ++ moment.2.cancelled?.toList :=
  filterMap_next ..

include roster taken

theorem next_length :
    store'.runs.length = starts (past ++ [(store, move)]) + 1 ∧
      store'.currentRun = starts (past ++ [(store, move)]) := by
  have length := roster.length_eq
  have current := roster.current_eq
  rw [starts_concat]
  cases rostering_of_move taken with
  | started runs current' =>
    rw [runs, current', List.length_append, length_cancelRun]
    exact ⟨by simp [Move.isStart, length], by simp [Move.isStart, length]⟩
  | cancelled runs current' =>
    rw [runs, current', length_cancelRun]
    exact ⟨by simp [Move.isStart, length], by simp [Move.isStart, current]⟩
  | looped atRun going runs current' =>
    rw [runs, current', withLoop, List.length_modify]
    exact ⟨by simp [Move.isStart, length], by simp [Move.isStart, current]⟩
  | kept notStarted _ runs current' =>
    rw [runs, current']
    exact ⟨by simp [notStarted, length], by simp [notStarted, current]⟩

/-- An attempt is asked for by the loop of a run that was started. -/
theorem next_started (launched : 0 < store'.channels.executions.length) : 0 < store.currentRun := by
  obtain ⟨attempting, follows⟩ := attempting_of_move taken
  generalize attemptMove? (store, move) = said at attempting follows
  generalize greeted? (store, move) = heard, signal? (store, move) = told at attempting
  by_cases asks : said = some .trigger
  · subst asks
    cases attempting with
    | @launched run requested =>
      have known := lt_of_loopStage? requested
      have notFirst : run ≠ 0 := by
        rintro rfl
        rw [roster.first_stopped] at requested
        cases requested
      rw [roster.current_eq]
      have := roster.length_eq
      omega
  · refine roster.started ?_
    cases said with
    | none =>
      rwa [Option.some.inj follows]
    | some attemptMove =>
      rwa [← SingleFlight.length_eq_of_move follows (by simpa using asks)]

theorem next : Roster (past ++ [(store, move)]) store' := by
  have step := rostering_of_move taken
  obtain ⟨length, current⟩ := roster.next_length taken
  have grows : store.currentRun ≤ store'.currentRun := by
    rw [current, starts_concat, roster.current_eq]
    exact Nat.le_add_right ..
  refine ⟨length, current, ?_, ?_, ?_, ?_⟩
  · rcases step.loopStage_eq 0 with ⟨preference, rfl⟩ | same | ⟨unknown, _⟩
    · -- A loop that has stopped takes no step.
      rw [move?, LiveStore.step, stepLoop, roster.first_stopped] at taken
      cases taken
    · rw [same, roster.first_stopped]
    · rw [roster.first_stopped] at unknown
      cases unknown
  · intro run cancelled
    rw [shutDown_concat, List.mem_append, Option.mem_toList]
    rcases step.isCancelled_of_next cancelled with already | now | ⟨_, replaced⟩
    · rcases roster.cancelled run already with earlier | shut
      · exact .inl (Nat.lt_of_lt_of_le earlier grows)
      · exact .inr (.inl shut)
    · exact .inr (.inr now)
    · exact .inl replaced
  · intro launched
    exact Nat.lt_of_lt_of_le (roster.next_started taken launched) grows
  · intro id progress run running atRun
    obtain ⟨attempting, follows⟩ := attempting_of_move taken
    generalize attemptMove? (store, move) = said at attempting follows
    generalize greeted? (store, move) = heard, signal? (store, move) = told at attempting
    have earlier : ∀ {progress}, store.channels.stage? id = some (.running progress) →
        progress.run? = some run → 0 < run ∧ run ≤ store'.currentRun := by
      intro progress before atRun
      have known := roster.bound id progress run before atRun
      exact ⟨known.1, Nat.le_trans known.2 grows⟩
    cases said with
    | none =>
      rw [← Option.some.inj follows] at running
      exact earlier running atRun
    | some attemptMove =>
      rcases SingleFlight.running_of_move follows running with rfl | rfl | ⟨before, _⟩
      · cases attempting
        cases atRun
        have launched := Nat.zero_lt_of_lt (SingleFlight.stage?_lt running)
        exact ⟨roster.next_started taken launched, grows⟩
      · cases attempting with
        | goesOn before _ sameRun _ => exact earlier before (sameRun run atRun)
        | repeated before => exact earlier before atRun
        | confirmed before => exact earlier before atRun
      · exact earlier before atRun

end Roster

theorem roster_of_reach {options : SyncOptions} (reach : Reach move? { options := options } past store) :
    Roster past store := by
  induction reach with
  | start => exact .start options
  | next _ taken ih => exact ih.next taken

/-- Where there is one run at the most and nobody cancels it, no attempt is bound to a cancelled run. -/
theorem Roster.not_cancelled (roster : Roster past store) {id run : Nat} {progress : ChannelProgress}
    (once : starts past ≤ 1) (spared : shutDown past = [])
    (running : store.channels.stage? id = some (.running progress)) (atRun : progress.run? = some run) :
    ¬store.isCancelled run := by
  intro isCancelled
  obtain ⟨started, _⟩ := roster.bound id progress run running atRun
  have current := roster.current_eq
  rcases roster.cancelled run isCancelled with replaced | shut
  · omega
  · rw [spared] at shut
    cases shut

end SessionBoard.LiveStore
