import SessionBoard.Proofs.Store.Opens
import SessionBoard.Proofs.Store.Publication
import SessionBoard.Proofs.Store.Runs

namespace SessionBoard.LiveStore

open SingleFlight (Chronicle)

/-- A loop launches an attempt: the run of the loop and the attempt. -/
def launch? : LiveStore × Move → Option (Nat × Nat)
  | (store, .step _ (.syncLoop run)) =>
    if store.loopStage? run = some .requested then
      (SingleFlight.History.launched? (store.channels, .trigger)).map (run, ·)
    else none
  | _ => none

/-- An attempt ends, and when. -/
def ending? (moment : LiveStore × Move) : Option (Nat × Nat) :=
  match attemptMove? moment with
  | some (.finish id _) => some (id, moment.1.now)
  | _ => none

/-- The attempts in the order of their launch, with the runs whose loops launched them. -/
def launches (past : History) : List (Nat × Nat) :=
  past.filterMap launch?

/-- The attempts that have ended, with the times at which they did. -/
def endings (past : History) : List (Nat × Nat) :=
  past.filterMap ending?

/-- By this time the backoff has passed since the attempt ended. -/
def Rested (past : History) (backoff id time : Nat) : Prop :=
  ∃ ended, (id, ended) ∈ endings past ∧ ended + backoff ≤ time

variable {store store' : LiveStore} {past : History} {move : Move} {backoff id run : Nat}

theorem launches_concat (past : History) (moment : LiveStore × Move) :
    launches (past ++ [moment]) = launches past ++ (launch? moment).toList :=
  filterMap_next ..

theorem endings_append (past later : History) : endings (past ++ later) = endings past ++ endings later :=
  List.filterMap_append ..

theorem Rested.later {time time' : Nat} {more : History} (rested : Rested past backoff id time)
    (le : time ≤ time') : Rested (past ++ more) backoff id time' := by
  obtain ⟨ended, member, passed⟩ := rested
  refine ⟨ended, ?_, Nat.le_trans passed le⟩
  rw [endings_append]
  exact List.mem_append_left _ member

theorem moveBetween?_ne_trigger (flights flights' : Attempts) (id : Nat) :
    flights.moveBetween? flights' id ≠ some .trigger := by
  unfold SingleFlight.moveBetween?
  split <;> simp

theorem launch?_snd (moment : LiveStore × Move) :
    (launch? moment).map Prod.snd =
      (attemptMove? moment).bind fun move => SingleFlight.History.launched? (moment.1.channels, move) := by
  obtain ⟨store, move⟩ := moment
  cases move with
  | step preference task =>
    cases task with
    | refresh id => rfl
    | channel id =>
      show none = _
      cases act : attemptMove? (store, .step preference (.channel id)) with
      | none => rfl
      | some attemptMove =>
        cases attemptMove with
        | trigger =>
          obtain ⟨_, _, between⟩ := Option.bind_eq_some_iff.mp act
          exact absurd between (moveBetween?_ne_trigger _ _ _)
        | begin | report | finish | settle | resolve => rfl
    | syncLoop run =>
      rw [launch?, attemptMove?]
      split
      · rw [Option.map_map, Option.bind_some]
        exact Option.map_id' ..
      · rfl
  | _ => rfl

theorem launches_snd (past : History) : (launches past).map Prod.snd = (attemptHistory past).launched := by
  rw [launches, List.map_filterMap, SingleFlight.History.launched, filterMap_attemptHistory]
  congr 1
  funext moment
  exact launch?_snd moment

theorem endings_fst (past : History) :
    (endings past).map Prod.fst = (attemptHistory past).ended.map Prod.fst := by
  rw [endings, List.map_filterMap, SingleFlight.History.ended, filterMap_attemptHistory, List.map_filterMap]
  congr 1
  funext moment
  unfold ending?
  cases attemptMove? moment with
  | none => rfl
  | some attemptMove => cases attemptMove <;> rfl

/-- How long ago an attempt has ended that a loop in this stage has launched. -/
def RestedAt (past : History) (backoff id now : Nat) : LoopStage → Prop
  | .ready | .requested => Rested past backoff id now
  | .awaiting flight => id = flight ∨ Rested past backoff id now
  | .sleeping deadline => Rested past backoff id deadline
  | .stopped => True

theorem RestedAt.later {stage : LoopStage} {now now' : Nat} {more : History}
    (rested : RestedAt past backoff id now stage) (le : now ≤ now') :
    RestedAt (past ++ more) backoff id now' stage := by
  cases stage with
  | ready | requested => exact Rested.later rested le
  | awaiting flight => exact rested.imp_right fun rested => rested.later le
  | sleeping deadline => exact Rested.later rested (Nat.le_refl _)
  | stopped => trivial

/-- What the loops have launched, against their stages and the clock. -/
structure Pace (backoff : Nat) (past : History) (store : LiveStore) : Prop where
  ended_le : ∀ {id ended}, (id, ended) ∈ endings past → ended ≤ store.now
  known : ∀ {run id}, (run, id) ∈ launches past → run < store.runs.length
  stage : ∀ {run id stage}, (run, id) ∈ launches past → store.loopStage? run = some stage →
    RestedAt past backoff id store.now stage
  apart : ∀ {run earlier later}, (run, earlier) ∈ launches past → (run, later) ∈ launches past →
    earlier < later → Rested past backoff earlier store.now

theorem now_le_of_move (taken : store.move? move = some store') : store.now ≤ store'.now := by
  cases move with
  | receive subscriber =>
    obtain ⟨_, _, rfl⟩ := Option.map_eq_some_iff.mp taken
    exact Nat.le_refl _
  | wait elapsed =>
    cases taken
    exact Nat.le_add_right ..
  | step preference task =>
    refine Nat.le_of_eq ?_
    cases task with
    | refresh id =>
      obtain ⟨_, _, _, rfl, _⟩ := (stepRefresh_cases taken).frame
      rfl
    | channel id => cases stepChannel_cases taken <;> rfl
    | syncLoop run => cases stepLoop_cases taken <;> rfl
  | _ =>
    cases taken
    exact Nat.le_refl _

theorem ending?_eq_some {ended : Nat} (ends : ending? (store, move) = some (id, ended)) :
    ended = store.now := by
  unfold ending? at ends
  split at ends <;> cases ends
  rfl

/-- The loop that launches an attempt is given the flight of it. -/
theorem launch?_eq_some (launch : launch? (store, move) = some (run, id)) :
    ∃ preference, move = .step preference (.syncLoop run) ∧ store.loopStage? run = some .requested ∧
      id = store.channels.trigger.2 ∧ id = store.channels.executions.length := by
  unfold launch? at launch
  split at launch
  · rename_i preference run' same
    cases same
    split at launch
    · rename_i requested
      obtain ⟨_, launched, same⟩ := Option.map_eq_some_iff.mp launch
      cases same
      refine ⟨preference, rfl, requested, ?_, ?_⟩
      · cases slot : store.channels.slot <;> simp_all [SingleFlight.History.launched?]
      · rcases SingleFlight.launched?_trigger store.channels with ⟨none, _⟩ | ⟨_, some, _⟩
        · cases none.symm.trans launched
        · exact (Option.some.inj (some.symm.trans launched)).symm
    · cases launch
  · cases launch

theorem launched_lt (chronicle : Chronicle (attemptHistory past) store.channels)
    (member : (run, id) ∈ launches past) : id < store.channels.executions.length := by
  have within := List.mem_map_of_mem (f := Prod.snd) member
  rwa [launches_snd, chronicle.launched_eq, List.mem_range] at within

namespace Pace

variable (pace : Pace backoff past store) (chronicle : Chronicle (attemptHistory past) store.channels)

include pace chronicle

/-- The flight that a loop has waited for was resolved by now, so its attempt has ended by now. -/
theorem exists_ending {outcome : Option (Except SourceError Unit)}
    (resolved : store.channels.outcome? id = some outcome) :
    ∃ ended, (id, ended) ∈ endings past ∧ ended ≤ store.now := by
  have ended := chronicle.mem_ended (SingleFlight.outcome?_eq_some.mp resolved) rfl
  have within := List.mem_map_of_mem (f := Prod.fst) ended
  rw [← endings_fst] at within
  obtain ⟨⟨_, time⟩, member, rfl⟩ := List.mem_map.mp within
  exact ⟨time, member, pace.ended_le member⟩

omit chronicle in
theorem known_next (taken : store.move? move = some store')
    (member : (run, id) ∈ launches (past ++ [(store, move)])) :
    run < store'.runs.length := by
  have grows := (rostering_of_move taken).length_le
  rw [launches_concat, List.mem_append, Option.mem_toList] at member
  rcases member with earlier | now
  · exact Nat.lt_of_lt_of_le (pace.known earlier) grows
  · obtain ⟨_, _, requested, _⟩ := launch?_eq_some now
    exact Nat.lt_of_lt_of_le (lt_of_loopStage? requested) grows

/-- A loop takes a step of its own. -/
theorem stage_of_step {preference : Preference} {stage : LoopStage} (backoff_eq : store.options.backoff = backoff)
    (step : LoopStep store preference run store')
    (member : (run, id) ∈ launches (past ++ [(store, .step preference (.syncLoop run))]))
    (atRun : store'.loopStage? run = some stage) :
    RestedAt (past ++ [(store, .step preference (.syncLoop run))]) backoff id store'.now stage := by
  rw [launches_concat, List.mem_append, Option.mem_toList] at member
  cases step with
  | stops =>
    rw [eq_of_loopStage?_withLoop atRun]
    trivial
  | requests begins =>
    rw [eq_of_loopStage?_withLoop atRun]
    have ready : store.loopStage? run = some .ready := by
      simp only [beginsCycle, Bool.and_eq_true, decide_eq_true_eq] at begins
      exact begins.1
    rcases member with earlier | now
    · exact Rested.later (pace.stage earlier ready) (Nat.le_refl _)
    · obtain ⟨_, _, requested, _⟩ := launch?_eq_some now
      cases ready.symm.trans requested
  | opens requested =>
    rw [eq_of_loopStage?_withLoop atRun]
    rcases member with earlier | now
    · exact .inr (Rested.later (pace.stage earlier requested) (Nat.le_refl _))
    · obtain ⟨_, _, _, given, _⟩ := launch?_eq_some now
      exact .inl given
  | @sleeps flight awaiting done =>
    rw [eq_of_loopStage?_withLoop atRun]
    rcases member with earlier | now
    · rcases pace.stage earlier awaiting with rfl | rested
      · -- The flight has been resolved, so the attempt behind it has ended by now.
        obtain ⟨outcome, resolved⟩ := Option.isSome_iff_exists.mp done
        obtain ⟨ended, member, before⟩ := pace.exists_ending chronicle resolved
        have rested : Rested past backoff id (store.now + store.options.backoff) :=
          ⟨ended, member, by omega⟩
        exact rested.later (Nat.le_refl _)
      · exact rested.later (Nat.le_add_right ..)
    · obtain ⟨_, _, requested, _⟩ := launch?_eq_some now
      cases awaiting.symm.trans requested
  | @wakes deadline sleeping due =>
    rw [eq_of_loopStage?_withLoop atRun]
    rcases member with earlier | now
    · exact Rested.later (pace.stage earlier sleeping) due
    · obtain ⟨_, _, requested, _⟩ := launch?_eq_some now
      cases sleeping.symm.trans requested

theorem stage_next {stage : LoopStage} (taken : store.move? move = some store')
    (backoff_eq : store.options.backoff = backoff)
    (member : (run, id) ∈ launches (past ++ [(store, move)])) (atRun : store'.loopStage? run = some stage) :
    RestedAt (past ++ [(store, move)]) backoff id store'.now stage := by
  by_cases own : ∃ preference, move = .step preference (.syncLoop run)
  · obtain ⟨preference, rfl⟩ := own
    exact pace.stage_of_step chronicle backoff_eq (stepLoop_cases taken) member atRun
  · have earlier : (run, id) ∈ launches past := by
      rw [launches_concat, List.mem_append, Option.mem_toList] at member
      refine member.resolve_right fun now => own ?_
      obtain ⟨preference, same, _⟩ := launch?_eq_some now
      exact ⟨preference, same⟩
    rcases (rostering_of_move taken).loopStage_eq run with isOwn | same | ⟨unknown, _⟩
    · exact absurd isOwn own
    · rw [same] at atRun
      exact (pace.stage earlier atRun).later (now_le_of_move taken)
    · have known := pace.known earlier
      rw [loopStage?, List.getElem?_eq_getElem known] at unknown
      cases unknown

theorem apart_next {earlier later : Nat} (taken : store.move? move = some store')
    (first : (run, earlier) ∈ launches (past ++ [(store, move)]))
    (second : (run, later) ∈ launches (past ++ [(store, move)])) (order : earlier < later) :
    Rested (past ++ [(store, move)]) backoff earlier store'.now := by
  have passes := now_le_of_move taken
  rw [launches_concat, List.mem_append, Option.mem_toList] at first second
  rcases first with first | first <;> rcases second with second | second
  · exact (pace.apart first second order).later passes
  · -- A loop that asks for a channel has slept since it was given a flight.
    obtain ⟨_, _, requested, _⟩ := launch?_eq_some second
    exact Rested.later (pace.stage first requested) passes
  · obtain ⟨_, _, _, _, last⟩ := launch?_eq_some first
    have within := launched_lt chronicle second
    omega
  · obtain ⟨_, _, _, _, last⟩ := launch?_eq_some first
    obtain ⟨_, _, _, _, last'⟩ := launch?_eq_some second
    omega

theorem next (taken : store.move? move = some store') (backoff_eq : store.options.backoff = backoff) :
    Pace backoff (past ++ [(store, move)]) store' where
  ended_le := by
    intro id ended member
    have passes := now_le_of_move taken
    rw [endings_append, List.mem_append] at member
    rcases member with earlier | now
    · exact Nat.le_trans (pace.ended_le earlier) passes
    · obtain ⟨_, isMoment, ends⟩ := List.mem_filterMap.mp now
      cases List.mem_singleton.mp isMoment
      exact ending?_eq_some ends ▸ passes
  known := pace.known_next taken
  stage := pace.stage_next chronicle taken backoff_eq
  apart := pace.apart_next chronicle taken

end Pace

theorem pace_of_reach {options : SyncOptions} (reach : Reach move? { options := options } past store) :
    Pace options.backoff past store := by
  induction reach with
  | start => refine ⟨?_, ?_, ?_, ?_⟩ <;> simp [endings, launches]
  | next reach taken ih =>
    have same := congrArg SyncOptions.backoff (options_of_reach reach)
    exact ih.next (chronicle_of_reach reach) taken same

/-- What keeps the opens of push channels apart, and how far. -/
structure Paced (backoff : Nat) (past : History) (store : LiveStore) : Prop where
  counted : store.server.opens = (opens past).length
  once : (opens past).Nodup
  /-- An attempt that opens was launched by the loop of a run that had been started. -/
  launched : ∀ id ∈ opens past, ∃ run, (run, id) ∈ launches past ∧ 0 < run ∧ run ≤ starts past
  /-- Between the end of one attempt and the open of another the backoff passes if the loop of one run
  has launched both. -/
  same_loop : ∀ before first middle second after earlier later run,
    past = before ++ first :: middle ++ second :: after →
      open? first = some earlier → open? second = some later →
        (run, earlier) ∈ launches past → (run, later) ∈ launches past →
          Rested middle backoff earlier second.1.now
  /-- So it does between any two opens, unless the loop of a run that has been replaced is at work. -/
  no_old_loop : ∀ before first middle second after earlier later,
    past = before ++ first :: middle ++ second :: after →
      open? first = some earlier → open? second = some later →
        Rested middle backoff earlier second.1.now ∨
          ∃ run < second.1.currentRun, (run, earlier) ∈ launches past ∨ (run, later) ∈ launches past
  single_start : starts past ≤ 1 → ∀ before first middle second after earlier later,
    past = before ++ first :: middle ++ second :: after →
      open? first = some earlier → open? second = some later →
        Rested middle backoff earlier second.1.now

section

variable {options : SyncOptions} (reach : Reach move? { options := options } past store)

include reach

/-- A launch is the doing of a loop that was started by then. -/
theorem run_of_launch (member : (run, id) ∈ launches past) : 0 < run ∧ run ≤ starts past := by
  obtain ⟨⟨found, move⟩, passed, launch⟩ := List.mem_filterMap.mp member
  obtain ⟨before, after, _, rfl, earlier, _⟩ := reach.moment_of_mem passed
  have roster := roster_of_reach earlier
  obtain ⟨_, _, requested, _⟩ := launch?_eq_some launch
  have known := lt_of_loopStage? requested
  have length := roster.length_eq
  have notFirst : run ≠ 0 := by
    rintro rfl
    cases roster.first_stopped.symm.trans requested
  have more := starts_le_append before ((found, move) :: after)
  omega

theorem exists_launch (launched : id < store.channels.executions.length) :
    ∃ run, (run, id) ∈ launches past := by
  rw [← List.mem_range, ← (chronicle_of_reach reach).launched_eq, ← launches_snd] at launched
  obtain ⟨⟨run, _⟩, member, rfl⟩ := List.mem_map.mp launched
  exact ⟨run, member⟩

theorem launch_unique {run' : Nat} (first : (run, id) ∈ launches past) (second : (run', id) ∈ launches past) :
    run = run' := by
  have distinct : ((launches past).map Prod.snd).Nodup := by
    rw [launches_snd, (chronicle_of_reach reach).launched_eq]
    exact List.nodup_range
  have same := List.inj_on_of_nodup_map distinct first second rfl
  exact (Prod.mk.inj same).1

theorem launched_of_open (asked : id ∈ opens past) : id < store.channels.executions.length :=
  Nat.lt_of_lt_of_le ((called_of_reach reach).begun asked) (chronicle_of_reach reach).begun_first.le

end

/-- An attempt that opens has not ended by then. -/
theorem not_ended_of_open {options : SyncOptions} {later : History}
    (reach : Reach move? { options := options } past store) (taken : store.move? move = some store')
    (asks : open? (store, move) = some id) {ended : Nat}
    (member : (id, ended) ∈ endings (past ++ (store, move) :: later)) : (id, ended) ∈ endings later := by
  have chronicle := chronicle_of_reach reach
  obtain ⟨run, bound⟩ := bound_of_open taken asks
  have notBefore : (id, ended) ∉ endings past := by
    intro before
    have within := List.mem_map_of_mem (f := Prod.fst) before
    rw [endings_fst, chronicle.ended_eq, List.mem_range] at within
    exact absurd within (Nat.not_lt.mpr (Nat.le_of_eq (chronicle.eq_of_running bound).symm))
  have notNow : ending? (store, move) = none := by
    unfold open? at asks
    split at asks
    · rename_i said
      rw [ending?, said]
    · cases asks
  rw [endings_append, List.mem_append] at member
  have onward := member.resolve_left notBefore
  rwa [endings, List.filterMap_cons, notNow] at onward

/-- A loop that has launched both attempts has slept in between. -/
theorem rested_between {options : SyncOptions} {before middle : History} {first : LiveStore × Move}
    {earlier later : Nat} (reach : Reach move? { options := options } (before ++ first :: middle) store)
    (taken : store.move? move = some store') (asksFirst : open? first = some earlier)
    (asksSecond : open? (store, move) = some later)
    (firstLaunch : (run, earlier) ∈ launches (before ++ first :: middle))
    (secondLaunch : (run, later) ∈ launches (before ++ first :: middle)) :
    Rested middle options.backoff earlier store.now := by
  obtain ⟨found, move'⟩ := first
  obtain ⟨left, atFirst, takenFirst, _⟩ := reach.moment
  obtain ⟨current, bound⟩ := bound_of_open taken asksSecond
  have called := called_of_reach reach
  have asked : earlier ∈ opens (before ++ (found, move') :: middle) :=
    List.mem_filterMap.mpr ⟨_, List.mem_append_right _ List.mem_cons_self, asksFirst⟩
  -- Attempts open in the order of their launch, and each of them once.
  have order : earlier < later := by
    have begun := called.begun asked
    rw [begun_of_running (chronicle_of_reach reach) bound, List.length_append, List.length_range,
      List.length_singleton] at begun
    have different : earlier ≠ later := fun same => called.notYet bound (same ▸ asked)
    omega
  obtain ⟨ended, member, passed⟩ := (pace_of_reach reach).apart firstLaunch secondLaunch order
  exact ⟨ended, not_ended_of_open atFirst takenFirst asksFirst member, passed⟩

/-- Two attempts that have opened with no sleep in between were not both launched by the current loop. -/
theorem rested_or_replaced {options : SyncOptions} {before middle : History} {first : LiveStore × Move}
    {earlier later : Nat} (reach : Reach move? { options := options } (before ++ first :: middle) store)
    (taken : store.move? move = some store') (asksFirst : open? first = some earlier)
    (asksSecond : open? (store, move) = some later) :
    Rested middle options.backoff earlier store.now ∨ ∃ run < store.currentRun,
      (run, earlier) ∈ launches (before ++ first :: middle) ∨
        (run, later) ∈ launches (before ++ first :: middle) := by
  obtain ⟨current, bound⟩ := bound_of_open taken asksSecond
  have asked : earlier ∈ opens (before ++ first :: middle) :=
    List.mem_filterMap.mpr ⟨_, List.mem_append_right _ List.mem_cons_self, asksFirst⟩
  obtain ⟨run, firstLaunch⟩ := exists_launch reach (launched_of_open reach asked)
  obtain ⟨run', secondLaunch⟩ := exists_launch reach (SingleFlight.stage?_lt bound)
  have current := (roster_of_reach reach).current_eq
  have started := (run_of_launch reach firstLaunch).2
  have started' := (run_of_launch reach secondLaunch).2
  by_cases old : run < store.currentRun
  · exact .inr ⟨run, old, .inl firstLaunch⟩
  by_cases old' : run' < store.currentRun
  · exact .inr ⟨run', old', .inr secondLaunch⟩
  have same : run = run' := by omega
  subst same
  exact .inl (rested_between reach taken asksFirst asksSecond firstLaunch secondLaunch)

/-- A launch that is known of is known where its attempt opens. -/
theorem launch_of_split {options : SyncOptions} {before after : History} {middle : LiveStore}
    (reach : Reach move? { options := options } (before ++ after) store)
    (atMiddle : Reach move? { options := options } before middle)
    (launch : (run, id) ∈ launches (before ++ after)) (launched : id < middle.channels.executions.length) :
    (run, id) ∈ launches before := by
  obtain ⟨run', early⟩ := exists_launch atMiddle launched
  have known : (run', id) ∈ launches (before ++ after) := by
    rw [launches, List.filterMap_append]
    exact List.mem_append_left _ early
  rwa [launch_unique reach launch known]

/-- Any two opens that the loop of one run is behind are a backoff apart, counted from the end of the earlier
attempt: a loop waits for the flight that it was given, sleeps for the backoff and only then asks again. The
loop of a run that was replaced keeps no pace with that of the run that took its place. -/
theorem paced {options : SyncOptions} (reach : Reach move? { options := options } past store) :
    Paced options.backoff past store := by
  have called := called_of_reach reach
  have noOldLoop : ∀ before first middle second after earlier later,
      past = before ++ first :: middle ++ second :: after →
        open? first = some earlier → open? second = some later →
          Rested middle options.backoff earlier second.1.now ∨
            ∃ run < second.1.currentRun, (run, earlier) ∈ launches past ∨ (run, later) ∈ launches past := by
    rintro before first middle ⟨found, move⟩ after earlier later rfl asksFirst asksSecond
    obtain ⟨left, atSecond, taken, _⟩ := reach.moment
    refine (rested_or_replaced atSecond taken asksFirst asksSecond).imp_right ?_
    rintro ⟨run, old, launch⟩
    rw [launches, List.filterMap_append]
    exact ⟨run, old, launch.imp (List.mem_append_left _) (List.mem_append_left _)⟩
  refine ⟨called.counted, called.once, ?_, ?_, noOldLoop, ?_⟩
  · intro id asked
    obtain ⟨run, launch⟩ := exists_launch reach (launched_of_open reach asked)
    exact ⟨run, launch, run_of_launch reach launch⟩
  · rintro before first middle ⟨found, move⟩ after earlier later run rfl asksFirst asksSecond firstLaunch
      secondLaunch
    obtain ⟨left, atSecond, taken, _⟩ := reach.moment
    obtain ⟨current, bound⟩ := bound_of_open taken asksSecond
    have asked : earlier ∈ opens (before ++ first :: middle) :=
      List.mem_filterMap.mpr ⟨_, List.mem_append_right _ List.mem_cons_self, asksFirst⟩
    exact rested_between atSecond taken asksFirst asksSecond
      (launch_of_split reach atSecond firstLaunch (launched_of_open atSecond asked))
      (launch_of_split reach atSecond secondLaunch (SingleFlight.stage?_lt bound))
  · rintro once before first middle ⟨found, move⟩ after earlier later split asksFirst asksSecond
    refine (noOldLoop before first middle _ after earlier later split asksFirst asksSecond).resolve_right ?_
    rintro ⟨run, old, launch⟩
    have replaced : run < found.currentRun := old
    have started : 0 < run := launch.elim (fun launch => (run_of_launch reach launch).1)
      fun launch => (run_of_launch reach launch).1
    subst split
    obtain ⟨left, atSecond, _⟩ := reach.moment
    have current := (roster_of_reach atSecond).current_eq
    have more := starts_le_append (before ++ first :: middle) ((found, move) :: after)
    omega

/-- Two starts before any task has run: the loop of the first run launches an attempt although it was
cancelled, the loop of the second one queues another behind it, and that one opens as soon as the first
has failed. -/
theorem not_rested_after_two_starts :
    ¬∀ past store, Reach move? { options := { backoff := 1000 } } past store →
      ∀ before first middle second after earlier later,
        past = before ++ first :: middle ++ second :: after →
          open? first = some earlier → open? second = some later →
            starts middle = 0 → opens middle = [] → Rested middle 1000 earlier second.1.now := by
  intro always
  have reach : Reach move? { options := { backoff := 1000 } } _ _ :=
    .of_trail [.start, .start, .step .work (.syncLoop 1), .step .work (.syncLoop 1),
      .step .work (.channel 0), .step .work (.syncLoop 2), .step .work (.syncLoop 2),
      .refuseChannel .closed, .step .work (.channel 0), .step .work (.channel 0),
      .step .work (.channel 0), .step .work (.channel 0), .step .work (.channel 0),
      .step .work (.channel 1), .step .work (.channel 1)] rfl
  obtain ⟨ended, member, passed⟩ :=
    always _ _ reach [_, _, _, _, _, _, _, _] _ [_, _, _, _, _] _ [] 0 1 rfl rfl rfl rfl rfl
  have atOnce := List.mem_singleton.mp (show (0, ended) ∈ [(0, 0)] from member)
  cases atOnce
  exact Nat.not_succ_le_zero 999 passed

/-- An open that fails, and after the backoff another one by the same loop. -/
theorem paced_after_failure :
    ∃ past store, Reach move? { options := { backoff := 1000 } } past store ∧
      launches past = [(1, 0), (1, 1)] ∧ opens past = [0, 1] ∧ endings past = [(0, 20)] ∧
      store.now = 1020 ∧ Paced 1000 past store := by
  have reach : Reach move? { options := { backoff := 1000 } } _ _ :=
    .of_trail [.start, .step .work (.syncLoop 1), .step .work (.syncLoop 1),
      .step .work (.channel 0), .step .work (.channel 0), .wait 20, .refuseChannel .closed,
      .step .work (.channel 0), .step .work (.channel 0), .step .work (.channel 0),
      .step .work (.channel 0), .step .work (.syncLoop 1), .wait 1000, .step .work (.syncLoop 1),
      .step .work (.syncLoop 1), .step .work (.syncLoop 1), .step .work (.channel 1),
      .step .work (.channel 1)] rfl
  exact ⟨_, _, reach, rfl, rfl, rfl, rfl, paced reach⟩

end SessionBoard.LiveStore
