import SessionBoard.Proofs.SingleFlight.History
import SessionBoard.Proofs.Store.Steps

namespace SessionBoard

namespace SingleFlight

variable {σ α : Type} {flights flights' : SingleFlight σ α} {id : Nat}

/-- The move by which an execution has come from one state to the next. -/
def moveBetween? (flights flights' : SingleFlight σ α) (id : Nat) : Option (Move σ α) :=
  match flights.stage? id, flights'.stage? id with
  | some (.launched _), some (.running progress) => some (.begin id progress)
  | some (.running _), some (.running progress) => some (.report id progress)
  | some (.running _), some (.returned outcome) => some (.finish id outcome)
  | some (.returned _), some (.settled _) => some (.settle id)
  | some (.settled _), some (.resolved _) => some (.resolve id)
  | _, _ => none

theorem moveBetween?_begin {progress : σ} (run : flights.begin? id progress = some flights') :
    moveBetween? flights flights' id = some (.begin id progress) := by
  obtain ⟨after, atId, _, rfl⟩ := begin?_eq_some.mp run
  simp only [moveBetween?, atId, stage?_withStage_self atId]

theorem moveBetween?_report {progress : σ} (run : flights.report? id progress = some flights') :
    moveBetween? flights flights' id = some (.report id progress) := by
  obtain ⟨⟨earlier, atId⟩, rfl⟩ := report?_eq_some.mp run
  simp only [moveBetween?, atId, stage?_withStage_self atId]

theorem moveBetween?_finish {outcome : Option α} (run : flights.finish? id outcome = some flights') :
    moveBetween? flights flights' id = some (.finish id outcome) := by
  obtain ⟨⟨progress, atId⟩, rfl⟩ := finish?_eq_some.mp run
  simp only [moveBetween?, atId, stage?_withStage_self atId]

/-- After its operation has ended an execution settles, and then its flight resolves. -/
theorem moveBetween?_unwind (run : flights.unwind? id = some flights') :
    (moveBetween? flights flights' id = some (.settle id) ∧ flights.settle? id = some flights') ∨
      (moveBetween? flights flights' id = some (.resolve id) ∧ flights.resolve? id = some flights') := by
  rcases unwind?_eq_some.mp run with ⟨outcome, atId, rfl⟩ | ⟨outcome, atId, rfl⟩
  · have now : SingleFlight.stage? { flights.withStage id (.settled outcome) with
        slot := flights.slot.settle id } id = some (.settled outcome) := stage?_withStage_self atId _
    refine .inl ⟨?_, settle?_eq_some.mpr ⟨outcome, atId, rfl⟩⟩
    simp only [moveBetween?, atId, now]
  · refine .inr ⟨?_, resolve?_eq_some.mpr ⟨outcome, atId, rfl⟩⟩
    simp only [moveBetween?, atId, stage?_withStage_self atId]

end SingleFlight

/-- Whether an attempt that may still hear of its channel has told that the channel is live. -/
def ChannelProgress.confirmed? : ChannelProgress → Option Bool
  | .bound _ | .opening _ => some false
  | .open _ _ confirmed | .received _ _ confirmed _ => some confirmed
  | .failing _ _ => none

/-- The run that an attempt is bound to, as long as that matters. -/
def ChannelProgress.run? : ChannelProgress → Option Nat
  | .bound run | .opening run | .open run _ _ | .received run _ _ _ => some run
  | .failing _ _ => none

theorem ChannelProgress.Abandonable.run_eq {progress : ChannelProgress} {run : Nat} {channel : Option Nat}
    (bound : progress.Abandonable run channel) : progress.run? = some run := by
  cases bound <;> rfl

def StoreEvent.connectivity? : StoreEvent → Option Connectivity
  | .update _ => none
  | .active => some .active
  | .inactive => some .inactive

namespace LiveStore

abbrev Attempts := SingleFlight ChannelProgress (Except SourceError Unit)

abbrev AttemptMove := SingleFlight.Move ChannelProgress (Except SourceError Unit)

/-- What a move is to the attempts: a loop asks for one, or one of them takes a step. -/
def attemptMove? : LiveStore × Move → Option AttemptMove
  | (store, .step preference (.channel id)) =>
    (store.step preference (.channel id)).bind fun store' =>
      store.channels.moveBetween? store'.channels id
  | (store, .step _ (.syncLoop run)) =>
    if store.loopStage? run = some .requested then some .trigger else none
  | _ => none

/-- The attempt that acts upon an `init` event. -/
def greeted? : LiveStore × Move → Option Nat
  | (store, .step _ (.channel id)) =>
    match store.channels.stage? id with
    | some (.running (.received _ _ _ .init)) => some id
    | _ => none
  | _ => none

/-- What an attempt dispatches of the health of its channel. -/
def signal? : LiveStore × Move → Option (Nat × Connectivity)
  | (store, .step _ (.channel id)) =>
    ((store.stepDispatch? (.channel id)).bind StoreEvent.connectivity?).map (id, ·)
  | _ => none

/-- The history of the single flight within that of the store. -/
def attemptHistory (past : History) : SingleFlight.History ChannelProgress (Except SourceError Unit) :=
  past.filterMap fun moment => (attemptMove? moment).map (moment.1.channels, ·)

/-- What is read off the history of the attempts is read off that of the store. -/
theorem filterMap_attemptHistory {τ : Type} (read? : Attempts × AttemptMove → Option τ) (past : History) :
    (attemptHistory past).filterMap read? =
      past.filterMap fun moment => (attemptMove? moment).bind fun move => read? (moment.1.channels, move) := by
  rw [attemptHistory, List.filterMap_filterMap]
  congr 1
  funext moment
  cases attemptMove? moment <;> rfl

theorem attemptHistory_concat (past : History) (moment : LiveStore × Move) :
    attemptHistory (past ++ [moment]) =
      attemptHistory past ++ ((attemptMove? moment).map (moment.1.channels, ·)).toList :=
  filterMap_next ..

theorem attempts_concat {τ : Type} (read? : Attempts × AttemptMove → Option τ) (past : History)
    (moment : LiveStore × Move) :
    (attemptHistory (past ++ [moment])).filterMap read? = (attemptHistory past).filterMap read? ++
      ((attemptMove? moment).bind fun move => read? (moment.1.channels, move)).toList := by
  rw [filterMap_attemptHistory, filterMap_attemptHistory, filterMap_next]

/-- What a move does to the attempts, what it hears of a channel and what it tells of it. A move that changes an
attempt is one of the single flight that the channels are asked for through, so whatever is true of single
flights is true of the attempts. -/
inductive Attempting (store : LiveStore) :
    Option AttemptMove → Option Nat → Option (Nat × Connectivity) → Prop
  | still : Attempting store none none none
  | launched {run} (requested : store.loopStage? run = some .requested) :
      Attempting store (some .trigger) none none
  | begun {id} : Attempting store (some (.begin id (.bound store.currentRun))) none none
  /-- Nothing becomes known of the channel that was not known before. -/
  | goesOn {id progress progress'} (atId : store.channels.stage? id = some (.running progress))
      (known : ∀ flag, progress'.confirmed? = some flag → progress.confirmed? = some flag)
      (sameRun : ∀ run, progress'.run? = some run → progress.run? = some run)
      (asksOnce : ∀ run, progress' ≠ .bound run ∧ (progress' = .opening run → progress = .bound run)) :
      Attempting store (some (.report id progress')) none none
  | repeated {id run channel}
      (atId : store.channels.stage? id = some (.running (.received run channel true .init))) :
      Attempting store (some (.report id (.open run channel true))) (some id) none
  | confirmed {id run channel}
      (atId : store.channels.stage? id = some (.running (.received run channel false .init))) :
      Attempting store (some (.report id (.open run channel true))) (some id) (some (id, .active))
  | abandoned {id progress run channel} (atId : store.channels.stage? id = some (.running progress))
      (bound : progress.Abandonable run channel) (cancelled : store.isCancelled run) :
      Attempting store (some (.finish id (some (.ok ())))) none none
  | failed {id channel error}
      (atId : store.channels.stage? id = some (.running (.failing channel error))) :
      Attempting store (some (.finish id (some (.error error)))) none (some (id, .inactive))
  | settled {id} : Attempting store (some (.settle id)) none none
  | resolved {id} : Attempting store (some (.resolve id)) none none

variable {store store' : LiveStore} {preference : Preference} {id : Nat} {past : History}

theorem ChannelStep.attempting (preference : Preference) (step : ChannelStep store id store') :
    ∃ move, store.channels.moveBetween? store'.channels id = some move ∧
      store.channels.move? move = some store'.channels ∧
      Attempting store (some move) (greeted? (store, .step preference (.channel id)))
        (signal? (store, .step preference (.channel id))) := by
  simp only [greeted?, signal?, stepDispatch?]
  cases step with
  | begins begun =>
    refine ⟨_, SingleFlight.moveBetween?_begin begun, begun, ?_⟩
    obtain ⟨after, atId, _⟩ := SingleFlight.begin?_eq_some.mp begun
    simp only [atId]
    exact .begun
  | abandons atId bound cancelled ended =>
    refine ⟨_, SingleFlight.moveBetween?_finish ended, ended, ?_⟩
    have heard := Attempting.abandoned atId bound cancelled
    cases bound <;> simp only [atId] <;> exact heard
  | asks atId reported =>
    refine ⟨_, SingleFlight.moveBetween?_report reported, reported, ?_⟩
    simp only [atId]
    exact .goesOn atId (fun _ same => same) (fun _ same => same) (by simp)
  | @answered run answer answers channels atId front reported =>
    refine ⟨_, SingleFlight.moveBetween?_report reported, reported, ?_⟩
    simp only [atId]
    cases answer with
    | ok channel => exact .goesOn atId (fun _ same => same) (fun _ same => same) fun _ => ⟨nofun, nofun⟩
    | error error => exact .goesOn atId nofun nofun fun _ => ⟨nofun, nofun⟩
  | @takes run channel confirmed item server channels atId found reported =>
    refine ⟨_, SingleFlight.moveBetween?_report reported, reported, ?_⟩
    simp only [atId]
    rcases item with _ | error | event
    · exact .goesOn atId nofun nofun fun _ => ⟨nofun, nofun⟩
    · exact .goesOn atId nofun nofun fun _ => ⟨nofun, nofun⟩
    · exact .goesOn atId (fun _ same => same) (fun _ same => same) fun _ => ⟨nofun, nofun⟩
  | confirms atId reported =>
    refine ⟨_, SingleFlight.moveBetween?_report reported, reported, ?_⟩
    simp only [atId]
    exact .confirmed atId
  | updates atId reported =>
    refine ⟨_, SingleFlight.moveBetween?_report reported, reported, ?_⟩
    simp only [atId]
    exact .goesOn atId (fun _ same => same) (fun _ same => same) fun _ => ⟨nofun, nofun⟩
  | ignores atId known reported =>
    refine ⟨_, SingleFlight.moveBetween?_report reported, reported, ?_⟩
    rcases known with ⟨rfl, rfl⟩ | ⟨name, rfl⟩
    · simp only [atId]
      exact .repeated atId
    · simp only [atId]
      exact .goesOn atId (fun _ same => same) (fun _ same => same) fun _ => ⟨nofun, nofun⟩
  | fails atId ended =>
    refine ⟨_, SingleFlight.moveBetween?_finish ended, ended, ?_⟩
    simp only [atId]
    exact .failed atId
  | unwinds run =>
    rcases SingleFlight.moveBetween?_unwind run with ⟨same, taken⟩ | ⟨same, taken⟩
    · obtain ⟨outcome, atId, _⟩ := SingleFlight.settle?_eq_some.mp taken
      refine ⟨_, same, taken, ?_⟩
      simp only [atId]
      exact .settled
    · obtain ⟨outcome, atId, _⟩ := SingleFlight.resolve?_eq_some.mp taken
      refine ⟨_, same, taken, ?_⟩
      simp only [atId]
      exact .resolved

/-- A loop that has asked for the list goes on to ask for a channel, cancelled or not. -/
theorem stepLoop_requested {run : Nat} (requested : store.loopStage? run = some .requested) :
    store.stepLoop preference run =
      some ({ store with channels := store.channels.trigger.1 }.withLoop run
        (.awaiting store.channels.trigger.2)) := by
  simp only [stepLoop, requested]

theorem LoopStep.channels_eq {run : Nat} (step : LoopStep store preference run store')
    (notRequested : store.loopStage? run ≠ some .requested) : store'.channels = store.channels := by
  cases step with
  | opens requested => exact absurd requested notRequested
  | stops | requests | sleeps | wakes => rfl

/-- Every move is one of the attempts or leaves them all as they are. -/
theorem attempting_of_move {move : Move} (taken : store.move? move = some store') :
    Attempting store (attemptMove? (store, move)) (greeted? (store, move)) (signal? (store, move)) ∧
      (attemptMove? (store, move)).elim (some store.channels) store.channels.move? =
        some store'.channels := by
  cases move with
  | receive subscriber =>
    obtain ⟨_, _, rfl⟩ := Option.map_eq_some_iff.mp taken
    exact ⟨.still, rfl⟩
  | step preference task =>
    cases task with
    | refresh id =>
      obtain ⟨_, _, _, rfl, _⟩ := (stepRefresh_cases taken).frame
      exact ⟨.still, rfl⟩
    | channel id =>
      obtain ⟨move, between, follows, heard⟩ := (stepChannel_cases taken).attempting preference
      have said : attemptMove? (store, .step preference (.channel id)) = some move := by
        rw [attemptMove?, show store.step preference (.channel id) = some store' from taken,
          Option.bind_some, between]
      rw [said]
      exact ⟨heard, follows⟩
    | syncLoop run =>
      by_cases requested : store.loopStage? run = some .requested
      · have asked := (stepLoop_requested requested).symm.trans taken
        cases asked
        rw [attemptMove?, if_pos requested]
        exact ⟨.launched requested, rfl⟩
      · rw [attemptMove?, if_neg requested, (stepLoop_cases taken).channels_eq requested]
        exact ⟨.still, rfl⟩
  | _ =>
    cases taken
    exact ⟨.still, rfl⟩

/-- The attempts of a store take a course that a single flight can take. -/
theorem attempts_of_reach {options : SyncOptions} (reach : Reach move? { options := options } past store) :
    Reach SingleFlight.move? {} (attemptHistory past) store.channels := by
  induction reach with
  | start => exact .start
  | @next past store move store' _ taken ih =>
    rw [attemptHistory_concat]
    have follows := (attempting_of_move taken).2
    cases said : attemptMove? (store, move) with
    | none =>
      rw [said, Option.elim_none] at follows
      rw [← Option.some.inj follows]
      simpa using ih
    | some attemptMove =>
      rw [said, Option.elim_some] at follows
      exact .next ih follows

theorem chronicle_of_reach {options : SyncOptions} (reach : Reach move? { options := options } past store) :
    SingleFlight.Chronicle (attemptHistory past) store.channels :=
  SingleFlight.chronicle_of_reach (attempts_of_reach reach)

/-- The attempt under way is the last one to have begun. -/
theorem begun_of_running {progress : ChannelProgress}
    (chronicle : SingleFlight.Chronicle (attemptHistory past) store.channels)
    (running : store.channels.stage? id = some (.running progress)) :
    (attemptHistory past).begun = List.range id ++ [id] := by
  have turn := chronicle.eq_of_running running
  have begun := (chronicle.begun_first.iff running).mp rfl
  have most := chronicle.begun_le_settled
  have least := chronicle.settled_le_ended
  have count : (attemptHistory past).begun.length = id + 1 := by omega
  rw [chronicle.begun_eq, count, List.range_succ]

end LiveStore

end SessionBoard
