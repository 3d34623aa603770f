import Mathlib.Data.List.Nodup
import SessionBoard.Proofs.SingleFlight.Exclusion
import SessionBoard.Proofs.Store.Steps

namespace SessionBoard.LiveStore

open SingleFlight (Sequenced)

abbrev Fetches := SingleFlight FetchProgress (Except SourceError Nat)

/-- What a move does to the executions of the fetches, by what it says of them. -/
inductive Fetching : Option FetchEvent → Fetches → Fetches → Prop
  | requested {fetches} : Fetching (some (.requested fetches.trigger.2)) fetches fetches.trigger.1
  | asked {fetches fetches' id} (run : fetches.begin? id .asked = some fetches') :
      Fetching (some (.asked id)) fetches fetches'
  | answered {fetches fetches' id answer} (waiting : fetches.stage? id = some (.running .asked))
      (run : fetches.report? id (.answered answer) = some fetches') :
      Fetching (some (.answered id answer)) fetches fetches'
  | completed {fetches fetches' id answer} (arrived : fetches.stage? id = some (.running (.answered answer)))
      (run : fetches.finish? id (some (fetchOutcome answer)) = some fetches') :
      Fetching (some (.completed id answer)) fetches fetches'
  | unwound {fetches fetches' id} (run : fetches.unwind? id = some fetches') :
      Fetching none fetches fetches'
  | still {fetches} : Fetching none fetches fetches

variable {store store' : LiveStore} {fetches fetches' : Fetches} {id : Nat}

/-- Only a request launches an execution. -/
theorem Fetching.length_eq {event : Option FetchEvent} (step : Fetching event fetches fetches')
    (noRequest : event.bind FetchEvent.requested? = none) :
    fetches'.executions.length = fetches.executions.length := by
  cases step with
  | requested => cases noRequest
  | asked run =>
    obtain ⟨_, _, _, rfl⟩ := SingleFlight.begin?_eq_some.mp run
    exact SingleFlight.length_withStage _
  | answered _ run =>
    obtain ⟨_, rfl⟩ := SingleFlight.report?_eq_some.mp run
    exact SingleFlight.length_withStage _
  | completed _ run =>
    obtain ⟨_, rfl⟩ := SingleFlight.finish?_eq_some.mp run
    exact SingleFlight.length_withStage _
  | unwound run =>
    rcases SingleFlight.unwind?_eq_some.mp run with ⟨_, _, rfl⟩ | ⟨_, _, rfl⟩ <;>
      exact SingleFlight.length_withStage _
  | still => rfl

/-- Executions are never forgotten. -/
theorem Fetching.length_le {event : Option FetchEvent} (step : Fetching event fetches fetches') :
    fetches.executions.length ≤ fetches'.executions.length := by
  cases requests : event.bind FetchEvent.requested? with
  | none => exact Nat.le_of_eq (step.length_eq requests).symm
  | some flight =>
    cases step <;> cases requests
    rcases fetches.trigger_executions with same | ⟨after, grown⟩ <;> simp [*]

theorem RefreshStep.fetching (preference : Preference) (step : RefreshStep store id store') :
    Fetching (store.stepEvent? preference (.refresh id)) store.refreshes store'.refreshes := by
  cases step with
  | asks run =>
    obtain ⟨after, atId, _⟩ := SingleFlight.begin?_eq_some.mp run
    simp only [stepEvent?, atId]
    exact .asked run
  | takes front waiting run =>
    simp only [stepEvent?, waiting, front, List.head?_cons, Option.map_some]
    exact .answered waiting run
  | completes arrived run =>
    simp only [stepEvent?, arrived]
    exact .completed arrived run
  | unwinds run =>
    rcases SingleFlight.unwind?_eq_some.mp run with ⟨outcome, atId, _⟩ | ⟨outcome, atId, _⟩ <;>
      simp only [stepEvent?, atId] <;> exact .unwound run

theorem ChannelStep.fetching (preference : Preference) (step : ChannelStep store id store') :
    Fetching (store.stepEvent? preference (.channel id)) store.refreshes store'.refreshes := by
  cases step with
  | begins begun =>
    obtain ⟨after, atId, _⟩ := SingleFlight.begin?_eq_some.mp begun
    simp only [stepEvent?, consumesUpdate, atId]
    exact .still
  | abandons atId bound =>
    cases bound <;> simp only [stepEvent?, consumesUpdate, atId] <;> exact .still
  | asks atId | answered atId | takes atId | confirms atId | fails atId =>
    simp only [stepEvent?, consumesUpdate, atId]
    exact .still
  | updates atId =>
    simp only [stepEvent?, consumesUpdate, atId, if_true]
    exact .requested
  | ignores atId known =>
    rcases known with ⟨rfl, _⟩ | ⟨name, rfl⟩ <;> simp only [stepEvent?, consumesUpdate, atId] <;>
      exact .still
  | unwinds run =>
    rcases SingleFlight.unwind?_eq_some.mp run with ⟨outcome, atId, _⟩ | ⟨outcome, atId, _⟩ <;>
      simp only [stepEvent?, consumesUpdate, atId] <;> exact .still

theorem LoopStep.fetching {preference : Preference} {run : Nat}
    (step : LoopStep store preference run store') :
    Fetching (store.stepEvent? preference (.syncLoop run)) store.refreshes store'.refreshes := by
  cases step with
  | stops _ quiet =>
    simp only [stepEvent?, quiet]
    exact .still
  | requests begins =>
    simp only [stepEvent?, begins, if_true]
    exact .requested
  | opens requested =>
    simp only [stepEvent?, beginsCycle_eq_false (by simp [requested] : store.loopStage? run ≠ _)]
    exact .still
  | sleeps awaiting =>
    simp only [stepEvent?, beginsCycle_eq_false (by simp [awaiting] : store.loopStage? run ≠ _)]
    exact .still
  | wakes sleeping =>
    simp only [stepEvent?, beginsCycle_eq_false (by simp [sleeping] : store.loopStage? run ≠ _)]
    exact .still

theorem fetching_of_move {move : Move} (taken : store.move? move = some store') :
    Fetching (fetchEvent? (store, move)) store.refreshes store'.refreshes := by
  cases move with
  | refresh =>
    cases taken
    exact .requested
  | receive subscriber =>
    obtain ⟨_, _, rfl⟩ := Option.map_eq_some_iff.mp taken
    exact .still
  | step preference task =>
    cases task with
    | refresh id => exact (stepRefresh_cases taken).fetching preference
    | channel id => exact (stepChannel_cases taken).fetching preference
    | syncLoop run => exact (stepLoop_cases taken).fetching
  | _ =>
    cases taken
    exact .still

theorem Fetching.reachable {event : Option FetchEvent} (step : Fetching event fetches fetches')
    (reachable : fetches.Reachable) : fetches'.Reachable := by
  cases step with
  | requested => exact reachable.next .trigger rfl
  | @asked _ _ id run => exact reachable.next (.begin id .asked) run
  | @answered _ _ id answer _ run => exact reachable.next (.report id (.answered answer)) run
  | @completed _ _ id answer _ run => exact reachable.next (.finish id _) run
  | @unwound _ _ id run =>
    rcases SingleFlight.unwind?_eq_some.mp run with unwinds | unwinds
    · exact reachable.next (.settle id) (SingleFlight.settle?_eq_some.mpr unwinds)
    · exact reachable.next (.resolve id) (SingleFlight.resolve?_eq_some.mpr unwinds)
  | still => exact reachable

/-- The fetches of a store take a course that a single flight can take. -/
theorem refreshes_reachable {options : SyncOptions} {past : List (LiveStore × Move)}
    (reach : Reach move? { options := options } past store) : store.refreshes.Reachable :=
  reach.invariant (fun store => store.refreshes.Reachable) ⟨[], .start⟩ fun _ _ _ reachable taken =>
    (fetching_of_move taken).reachable reachable

theorem range_prefix {few many : Nat} (le : few ≤ many) : List.range few <+: List.range many := by
  rw [show List.range few = (List.range many).take few by rw [List.take_range, Nat.min_eq_left le]]
  exact List.take_prefix ..

/-- The fetches that have begun and those that have ended, against the stages of the executions. -/
structure Tally (asked : List Nat) (completed : List (Nat × Except SourceError Snapshot))
    (executions : List (Stage FetchProgress (Except SourceError Nat))) : Prop where
  asked_eq : asked = List.range asked.length
  completed_eq : completed.map Prod.fst = List.range completed.length
  begun : FirstReached Stage.hasBegun executions asked.length
  ended : FirstReached (fun stage => stage.ending?.isSome) executions completed.length
  outcome : ∀ {id : Nat} {answer : Except SourceError Snapshot}, (id, answer) ∈ completed →
    ∃ stage, executions[id]? = some stage ∧ stage.ending? = some (some (fetchOutcome answer))

namespace Tally

variable {asked : List Nat} {completed : List (Nat × Except SourceError Snapshot)}
  {executions : List (Stage FetchProgress (Except SourceError Nat))}
  {old new : Stage FetchProgress (Except SourceError Nat)}

theorem nil : Tally [] [] [] where
  asked_eq := rfl
  completed_eq := rfl
  begun := .nil _
  ended := .nil _
  outcome := by simp

theorem append (tally : Tally asked completed executions) (after : Option Nat) :
    Tally asked completed (executions ++ [.launched after]) where
  asked_eq := tally.asked_eq
  completed_eq := tally.completed_eq
  begun := tally.begun.append rfl
  ended := tally.ended.append rfl
  outcome := by
    intro id answer member
    obtain ⟨stage, atId, ending⟩ := tally.outcome member
    have within := (List.getElem?_eq_some_iff.mp atId).1
    exact ⟨stage, by rw [List.getElem?_append_left within, atId], ending⟩

/-- Whatever has ended keeps its outcome under a change that takes none away. -/
theorem outcome_set (tally : Tally asked completed executions) (atId : executions[id]? = some old)
    (kept : ∀ outcome, old.ending? = some outcome → new.ending? = some outcome) {other : Nat}
    {answer : Except SourceError Snapshot} (member : (other, answer) ∈ completed) :
    ∃ stage, (executions.set id new)[other]? = some stage ∧
      stage.ending? = some (some (fetchOutcome answer)) := by
  obtain ⟨stage, atOther, outcome⟩ := tally.outcome member
  rw [List.getElem?_set]
  split
  · rename_i equal
    subst equal
    cases Option.some.inj (atOther.symm.trans atId)
    exact ⟨new, by simp [(List.getElem?_eq_some_iff.mp atId).1], kept _ outcome⟩
  · exact ⟨stage, atOther, outcome⟩

/-- A change by which nothing begins and nothing ends. -/
theorem set (tally : Tally asked completed executions) (atId : executions[id]? = some old)
    (begun : new.hasBegun = old.hasBegun) (ending : new.ending? = old.ending?) :
    Tally asked completed (executions.set id new) where
  asked_eq := tally.asked_eq
  completed_eq := tally.completed_eq
  begun := tally.begun.set_same atId begun
  ended := tally.ended.set_same atId (by rw [ending])
  outcome := tally.outcome_set atId fun outcome ended => ending.trans ended

/-- The next fetch in turn begins. -/
theorem ask (tally : Tally asked completed executions) {after : Option Nat} {progress : FetchProgress}
    (atId : executions[asked.length]? = some (.launched after)) :
    Tally (asked ++ [asked.length]) completed (executions.set asked.length (.running progress)) where
  asked_eq := by
    rw [List.length_append, List.length_singleton, List.range_succ, ← tally.asked_eq]
  completed_eq := tally.completed_eq
  begun := by
    rw [List.length_append]
    exact tally.begun.set_next (List.getElem?_eq_some_iff.mp atId).1 rfl
  ended := tally.ended.set_same atId rfl
  outcome := tally.outcome_set atId (by simp [Stage.ending?])

/-- The next fetch in turn ends. -/
theorem complete (tally : Tally asked completed executions) {progress : FetchProgress}
    {answer : Except SourceError Snapshot}
    (atId : executions[completed.length]? = some (.running progress)) :
    Tally asked (completed ++ [(completed.length, answer)])
      (executions.set completed.length (.returned (some (fetchOutcome answer)))) where
  asked_eq := tally.asked_eq
  completed_eq := by
    rw [List.map_append, tally.completed_eq, List.length_append, List.length_singleton,
      List.range_succ]
    rfl
  begun := tally.begun.set_same atId rfl
  ended := by
    rw [List.length_append]
    exact tally.ended.set_next (List.getElem?_eq_some_iff.mp atId).1 rfl
  outcome := by
    intro other answer' member
    rcases List.mem_append.mp member with earlier | last
    · exact tally.outcome_set atId (by simp [Stage.ending?]) earlier
    · cases List.mem_singleton.mp last
      exact ⟨.returned (some (fetchOutcome answer)), by simp [(List.getElem?_eq_some_iff.mp atId).1], rfl⟩

theorem length_le (tally : Tally asked completed executions) : completed.length ≤ asked.length :=
  tally.begun.le_of_imp tally.ended fun _ => Stage.hasBegun_of_ending

end Tally

/-- What a history says of the fetches, and how far their executions have come since the start. They begin and
end one after the other in the order of their launch. -/
structure Ledger (past : History) (fetches : Fetches) : Prop where
  sequenced : ∃ settled, fetches.Sequenced settled
  tally : Tally (asked past) (completed past) fetches.executions
  /-- At most one answer has arrived of which nothing has been made yet. -/
  arrived : ∃ current : Option (Nat × Except SourceError Snapshot),
    answered past = completed past ++ current.toList ∧
      ∀ id answer, current = some (id, answer) ↔ fetches.stage? id = some (.running (.answered answer))

theorem asked_append (past later : History) : asked (past ++ later) = asked past ++ asked later := by
  simp only [asked, fetchEvents, List.filterMap_append]

theorem completed_append (past later : History) :
    completed (past ++ later) = completed past ++ completed later := by
  simp only [completed, fetchEvents, List.filterMap_append]

theorem filterMap_concat {τ : Type} (event? : FetchEvent → Option τ) (past : History)
    (moment : LiveStore × Move) :
    (fetchEvents (past ++ [moment])).filterMap event? =
      (fetchEvents past).filterMap event? ++ ((fetchEvent? moment).bind event?).toList := by
  rw [fetchEvents, filterMap_next, List.filterMap_append]
  cases fetchEvent? moment <;> rfl

theorem asked_concat (past : History) (moment : LiveStore × Move) :
    asked (past ++ [moment]) = asked past ++ ((fetchEvent? moment).bind FetchEvent.asked?).toList :=
  filterMap_concat _ _ _

theorem answered_concat (past : History) (moment : LiveStore × Move) :
    answered (past ++ [moment]) =
      answered past ++ ((fetchEvent? moment).bind FetchEvent.answered?).toList :=
  filterMap_concat _ _ _

theorem completed_concat (past : History) (moment : LiveStore × Move) :
    completed (past ++ [moment]) =
      completed past ++ ((fetchEvent? moment).bind FetchEvent.completed?).toList :=
  filterMap_concat _ _ _

namespace Ledger

variable {past : History} {moment : LiveStore × Move}

theorem start : Ledger [] {} where
  sequenced := ⟨0, SingleFlight.sequenced_start⟩
  tally := .nil
  arrived := ⟨none, rfl, by simp [SingleFlight.stage?]⟩

theorem launched_position (ledger : Ledger past fetches) {progress : FetchProgress}
    (run : fetches.begin? id progress = some fetches') : id = (asked past).length := by
  obtain ⟨settled, seq⟩ := ledger.sequenced
  have first := seq.eq_of_begin run
  obtain ⟨after, atId, _⟩ := SingleFlight.begin?_eq_some.mp run
  have notBegun : ¬id < (asked past).length := by simp [← ledger.tally.begun.iff atId, Stage.hasBegun]
  have least := ledger.tally.begun.le_of_imp seq.prior fun _ => Stage.hasBegun_of_isSettled
  omega

theorem running_position (ledger : Ledger past fetches) {progress : FetchProgress}
    (atId : fetches.stage? id = some (.running progress)) : id = (completed past).length := by
  obtain ⟨settled, seq⟩ := ledger.sequenced
  have first := seq.eq_of_begun atId rfl rfl
  have notEnded : ¬id < (completed past).length := by
    simp [← ledger.tally.ended.iff atId, Stage.ending?]
  have least := ledger.tally.ended.le_of_imp seq.prior fun _ => Stage.ending_of_isSettled
  omega

theorem trigger (ledger : Ledger past fetches) : Ledger past fetches.trigger.1 := by
  obtain ⟨settled, seq⟩ := ledger.sequenced
  have tally := ledger.tally
  have arrived := ledger.arrived
  refine ⟨⟨settled, seq.trigger⟩, ?_, ?_⟩
  · rcases fetches.trigger_executions with same | ⟨after, grown⟩
    · rwa [same]
    · rw [grown]
      exact tally.append after
  · obtain ⟨current, answers, waiting⟩ := arrived
    refine ⟨current, answers, fun id answer => ?_⟩
    rw [waiting]
    rcases fetches.trigger_executions with same | ⟨after, grown⟩
    · simp only [SingleFlight.stage?, same]
    · simp only [SingleFlight.stage?, grown, List.getElem?_append]
      split
      · rfl
      · rename_i outside
        simp [List.getElem?_eq_none (Nat.not_lt.mp outside), List.getElem?_singleton]

/-- A stage may change as long as no answer arrives by it and none is used up. -/
theorem answered_withStage {old new : Stage FetchProgress (Except SourceError Nat)}
    (atId : fetches.stage? id = some old) (notOld : ∀ answer, old ≠ .running (.answered answer))
    (notNew : ∀ answer, new ≠ .running (.answered answer)) (other : Nat)
    (answer : Except SourceError Snapshot) :
    (fetches.withStage id new).stage? other = some (.running (.answered answer)) ↔
      fetches.stage? other = some (.running (.answered answer)) := by
  rw [SingleFlight.stage?_withStage atId]
  split
  · rename_i equal
    subst equal
    simp [atId, notOld, notNew]
  · rfl

theorem ask (ledger : Ledger past fetches) (said : fetchEvent? moment = some (.asked id))
    (run : fetches.begin? id .asked = some fetches') : Ledger (past ++ [moment]) fetches' := by
  obtain ⟨settled, seq⟩ := ledger.sequenced
  obtain ⟨current, answers, waiting⟩ := ledger.arrived
  have turn := ledger.launched_position run
  have next := seq.begin run
  obtain ⟨after, atId, _, rfl⟩ := SingleFlight.begin?_eq_some.mp run
  refine ⟨⟨settled, next⟩, ?_, current, ?_, fun other answer => ?_⟩
  · simp only [asked_concat, completed_concat, said, Option.bind_some, FetchEvent.asked?,
      FetchEvent.completed?, Option.toList, List.append_nil]
    subst turn
    exact ledger.tally.ask atId
  · simpa only [answered_concat, completed_concat, said, Option.bind_some, FetchEvent.answered?,
      FetchEvent.completed?, Option.toList_none, List.append_nil] using answers
  · rw [answered_withStage atId (by simp) (by simp)]
    exact waiting other answer

theorem answer (ledger : Ledger past fetches) {answer : Except SourceError Snapshot}
    (said : fetchEvent? moment = some (.answered id answer))
    (asked : fetches.stage? id = some (.running .asked))
    (run : fetches.report? id (.answered answer) = some fetches') :
    Ledger (past ++ [moment]) fetches' := by
  obtain ⟨settled, seq⟩ := ledger.sequenced
  obtain ⟨current, answers, waiting⟩ := ledger.arrived
  have none_waits : ∀ other answer, fetches.stage? other ≠ some (.running (.answered answer)) := by
    intro other answer atOther
    cases (ledger.running_position atOther).trans (ledger.running_position asked).symm
    cases atOther.symm.trans asked
  have next := seq.report run
  obtain ⟨_, rfl⟩ := SingleFlight.report?_eq_some.mp run
  refine ⟨⟨settled, next⟩, ?_, some (id, answer), ?_, fun other answer' => ?_⟩
  · simp only [asked_concat, completed_concat, said, Option.bind_some, FetchEvent.asked?,
      FetchEvent.completed?, Option.toList, List.append_nil]
    exact ledger.tally.set asked rfl rfl
  · have nothing : current = none := by
      rw [Option.eq_none_iff_forall_ne_some]
      rintro ⟨other, answer'⟩ found
      exact none_waits other answer' ((waiting other answer').mp found)
    subst nothing
    simp only [answered_concat, completed_concat, said, Option.bind_some, FetchEvent.answered?,
      FetchEvent.completed?, Option.toList, List.append_nil, answers]
  · rw [SingleFlight.stage?_withStage asked]
    split
    · rename_i equal
      simp [equal]
    · rename_i different
      simp [none_waits, Ne.symm different]

theorem complete (ledger : Ledger past fetches) {answer : Except SourceError Snapshot}
    (said : fetchEvent? moment = some (.completed id answer))
    (arrived : fetches.stage? id = some (.running (.answered answer)))
    (run : fetches.finish? id (some (fetchOutcome answer)) = some fetches') :
    Ledger (past ++ [moment]) fetches' := by
  obtain ⟨settled, seq⟩ := ledger.sequenced
  obtain ⟨current, answers, waiting⟩ := ledger.arrived
  cases (waiting id answer).mpr arrived
  have turn := ledger.running_position arrived
  have next := seq.finish run
  obtain ⟨_, rfl⟩ := SingleFlight.finish?_eq_some.mp run
  refine ⟨⟨settled, next⟩, ?_, none, ?_, fun other answer' => ?_⟩
  · simp only [asked_concat, completed_concat, said, Option.bind_some, FetchEvent.asked?,
      FetchEvent.completed?, Option.toList, List.append_nil]
    subst turn
    exact ledger.tally.complete arrived
  · simp only [answered_concat, completed_concat, said, Option.bind_some, FetchEvent.answered?,
      FetchEvent.completed?, Option.toList, List.append_nil, answers]
  · rw [SingleFlight.stage?_withStage arrived]
    split
    · simp
    · rename_i different
      simp only [reduceCtorEq, false_iff]
      intro atOther
      exact different ((ledger.running_position atOther).trans turn.symm)

theorem unwind (ledger : Ledger past fetches) (run : fetches.unwind? id = some fetches') :
    Ledger past fetches' := by
  obtain ⟨settled, seq⟩ := ledger.sequenced
  obtain ⟨current, answers, waiting⟩ := ledger.arrived
  rcases SingleFlight.unwind?_eq_some.mp run with ⟨outcome, atId, rfl⟩ | ⟨outcome, atId, rfl⟩
  · refine ⟨⟨settled + 1, seq.settle (SingleFlight.settle?_eq_some.mpr ⟨outcome, atId, rfl⟩)⟩,
      ledger.tally.set atId rfl rfl, current, answers, fun other answer => ?_⟩
    rw [waiting]
    exact (answered_withStage atId (by simp) (by simp) other answer).symm
  · refine ⟨⟨settled, seq.resolve (SingleFlight.resolve?_eq_some.mpr ⟨outcome, atId, rfl⟩)⟩,
      ledger.tally.set atId rfl rfl, current, answers, fun other answer => ?_⟩
    rw [waiting]
    exact (answered_withStage atId (by simp) (by simp) other answer).symm

/-- A move that says nothing of a fetch beginning, getting its answer or ending. -/
theorem silent (ledger : Ledger past fetches)
    (said : ∀ event, fetchEvent? moment = some event → ∃ flight, event = .requested flight) :
    Ledger (past ++ [moment]) fetches := by
  have nothing : (fetchEvent? moment).bind FetchEvent.asked? = none ∧
      (fetchEvent? moment).bind FetchEvent.answered? = none ∧
      (fetchEvent? moment).bind FetchEvent.completed? = none := by
    cases event : fetchEvent? moment with
    | none => simp
    | some event' =>
      obtain ⟨flight, rfl⟩ := said event' event
      simp [FetchEvent.asked?, FetchEvent.answered?, FetchEvent.completed?]
  refine ⟨ledger.sequenced, ?_, ?_⟩
  · rw [asked_concat, completed_concat, nothing.1, nothing.2.2]
    simpa using ledger.tally
  · rw [answered_concat, completed_concat, nothing.2.1, nothing.2.2]
    simpa using ledger.arrived

theorem next (ledger : Ledger past fetches) (step : Fetching (fetchEvent? moment) fetches fetches') :
    Ledger (past ++ [moment]) fetches' := by
  generalize said : fetchEvent? moment = event at step
  cases step with
  | requested => exact ledger.trigger.silent (by simp [said])
  | asked run => exact ledger.ask said run
  | answered waiting run => exact ledger.answer said waiting run
  | completed arrived run => exact ledger.complete said arrived run
  | unwound run => exact (ledger.unwind run).silent (by simp [said])
  | still => exact ledger.silent (by simp [said])

/-- An execution that has ended came to what its own fetch brought. -/
theorem exists_completed (ledger : Ledger past fetches)
    {stage : Stage FetchProgress (Except SourceError Nat)} (atId : fetches.stage? id = some stage)
    (ended : stage.ending?.isSome) :
    ∃ answer, (id, answer) ∈ completed past ∧ stage.ending? = some (some (fetchOutcome answer)) := by
  have within : id ∈ (completed past).map Prod.fst := by
    rw [ledger.tally.completed_eq, List.mem_range]
    exact (ledger.tally.ended.iff atId).mp ended
  obtain ⟨⟨_, answer⟩, member, rfl⟩ := List.mem_map.mp within
  obtain ⟨same, atSame, ending⟩ := ledger.tally.outcome member
  cases Option.some.inj (atSame.symm.trans atId)
  exact ⟨answer, member, ending⟩

/-- A fetch ends once. -/
theorem completed_unique (ledger : Ledger past fetches) {first second : Except SourceError Snapshot}
    (atFirst : (id, first) ∈ completed past) (atSecond : (id, second) ∈ completed past) :
    first = second := by
  have distinct : ((completed past).map Prod.fst).Nodup := by
    rw [ledger.tally.completed_eq]
    exact List.nodup_range
  have same := List.inj_on_of_nodup_map distinct atFirst atSecond rfl
  exact (Prod.mk.inj same).2

/-- Fetches end in the order in which they begin. -/
theorem completed_prefix (ledger : Ledger past fetches) :
    (completed past).map Prod.fst <+: asked past := by
  rw [ledger.tally.completed_eq, ledger.tally.asked_eq]
  exact range_prefix ledger.tally.length_le

/-- Answers come to the fetches in the order in which they begin. -/
theorem answered_prefix (ledger : Ledger past fetches) : (answered past).map Prod.fst <+: asked past := by
  obtain ⟨current, answers, waiting⟩ := ledger.arrived
  rcases current with _ | ⟨id, answer⟩
  · simpa [answers] using ledger.completed_prefix
  · have arrived := (waiting id answer).mp rfl
    have turn := ledger.running_position arrived
    have within := (ledger.tally.begun.iff arrived).mp rfl
    rw [answers, List.map_append, ledger.tally.completed_eq, ledger.tally.asked_eq]
    rw [turn] at within
    simpa [turn, List.range_succ] using range_prefix within

/-- At most one fetch is under way. -/
theorem asked_le (ledger : Ledger past fetches) : (asked past).length ≤ (completed past).length + 1 := by
  obtain ⟨settled, seq⟩ := ledger.sequenced
  have least := ledger.tally.ended.le_of_imp seq.prior fun _ => Stage.ending_of_isSettled
  have most : ¬settled + 1 < (asked past).length := by
    intro less
    have within := Nat.lt_of_lt_of_le less ledger.tally.begun.le
    have atId := List.getElem?_eq_getElem within
    have begun := (ledger.tally.begun.iff atId).mpr less
    rw [seq.followUp_launched atId] at begun
    cases begun
  omega

end Ledger

theorem ledger_of_reach {options : SyncOptions} {past : History}
    (reach : Reach move? { options := options } past store) : Ledger past store.refreshes := by
  induction reach with
  | start => exact .start
  | next _ taken ih => exact ih.next (fetching_of_move taken)

end SessionBoard.LiveStore
