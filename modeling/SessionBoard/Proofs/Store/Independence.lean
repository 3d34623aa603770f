import SessionBoard.Proofs.Store.Steps
import SessionBoard.Proofs.Reach

namespace SessionBoard.LiveStore

/-- The store but for its fetches and for what they publish. -/
def withoutFetches (store : LiveStore) : LiveStore :=
  { store with
    board := { connectivity := store.board.connectivity }
    refreshes := {}
    server := { store.server with fetchAnswers := [], fetches := 0 } }

/-- The move is one of a fetch, of the server for a fetch, or of a subscriber. -/
def Move.isOfFetches : Move → Bool
  | .subscribe | .unsubscribe _ | .receive _ | .refresh | .answerFetch _ | .step _ (.refresh _) => true
  | _ => false

variable {store store' first last : LiveStore} {past : List (LiveStore × Move)} {move : Move}

/-- Two steps go the same way but for the fetches, or neither of them can be taken. -/
def SameCourse (one other : Option LiveStore) : Prop :=
  one.map withoutFetches = other.map withoutFetches

/-- Whatever happens to the fetches changes nothing else. -/
theorem withoutFetches_of_fetch (taken : store.move? move = some store') (ofFetches : move.isOfFetches) :
    store'.withoutFetches = store.withoutFetches := by
  cases move with
  | receive subscriber =>
    obtain ⟨⟨event, board⟩, received, rfl⟩ := Option.map_eq_some_iff.mp taken
    unfold Board.receive? at received
    split at received <;> cases received
    rfl
  | step preference task =>
    cases task with
    | refresh id =>
      cases stepRefresh_cases taken with
      | asks | takes | unwinds => rfl
      | @completes answer =>
        rcases answer with error | snapshot
        · unfold applyAnswer
          cases store.options.onFetchError <;> rfl
        · rfl
    | channel | syncLoop => cases ofFetches
  | subscribe | unsubscribe | refresh | answerFetch =>
    cases taken
    rfl
  | start | cancel | grantChannel | refuseChannel | send | endChannel | wait => cases ofFetches

namespace SameCourse

theorem choose {preference : Preference} {cancellation cancellation' work work' : Option LiveStore}
    (cancels : SameCourse cancellation cancellation') (works : SameCourse work work') :
    SameCourse (choose preference cancellation work) (LiveStore.choose preference cancellation' work') := by
  unfold SameCourse at cancels works ⊢
  cases preference <;> cases cancellation <;> cases cancellation' <;> cases work <;> cases work' <;>
    simp_all [LiveStore.choose]

variable (store : LiveStore) (id run : Nat)

theorem report (progress : ChannelProgress) :
    SameCourse (store.report id progress) (store.withoutFetches.report id progress) := by
  simp only [SameCourse, LiveStore.report, withoutFetches]
  cases store.channels.report? id progress <;> rfl

theorem finishChannel (outcome : Except SourceError Unit) :
    SameCourse (store.finishChannel id outcome) (store.withoutFetches.finishChannel id outcome) := by
  simp only [SameCourse, LiveStore.finishChannel, withoutFetches]
  cases store.channels.finish? id (some outcome) <;> rfl

theorem abandon (channel : Option Nat) :
    SameCourse (store.abandon id run channel) (store.withoutFetches.abandon id run channel) := by
  have same : store.withoutFetches.isCancelled run = store.isCancelled run := rfl
  unfold LiveStore.abandon
  rw [same]
  split
  · cases channel <;> exact finishChannel _ id _
  · rfl

theorem takeChannel :
    SameCourse (store.takeChannel id run) (store.withoutFetches.takeChannel id run) := by
  have same : store.withoutFetches.server.openAnswers = store.server.openAnswers := rfl
  unfold LiveStore.takeChannel
  rw [same]
  split
  · rfl
  · rename_i answer _ _
    cases answer <;> exact report _ id _

theorem takeItem (channel : Nat) (confirmed : Bool) :
    SameCourse (store.takeItem id run channel confirmed)
      (store.withoutFetches.takeItem id run channel confirmed) := by
  have same : store.withoutFetches.server.take? channel = (store.server.take? channel).map
      fun taken => (taken.1, { taken.2 with fetchAnswers := [], fetches := 0 }) := by
    simp only [Server.take?, withoutFetches]
    split
    · rfl
    · split
      · rfl
      · split <;> rfl
  unfold LiveStore.takeItem
  rw [same]
  rcases store.server.take? channel with _ | ⟨_ | _ | _, server⟩
  · rfl
  all_goals exact report { store with server := server } id _

theorem actUpon (channel : Nat) (confirmed : Bool) (event : ChannelEvent) :
    SameCourse (store.actUpon id run channel confirmed event)
      (store.withoutFetches.actUpon id run channel confirmed event) := by
  cases event with
  | init => cases confirmed <;> exact report _ id _
  | update =>
    -- A request changes the fetches of both, and these are left out.
    exact (report store.refresh.1 id _).trans (report store.withoutFetches.refresh.1 id _).symm
  | other name => exact report _ id _

theorem stepChannel (preference : Preference) :
    SameCourse (store.stepChannel preference id) (store.withoutFetches.stepChannel preference id) := by
  have same : store.withoutFetches.channels.stage? id = store.channels.stage? id := rfl
  unfold LiveStore.stepChannel
  rw [same]
  split
  · simp only [SameCourse, withoutFetches]
    cases store.channels.begin? id (.bound store.currentRun) <;> rfl
  · exact choose (abandon _ id _ _) (report _ id _)
  · exact choose (abandon _ id _ _) (takeChannel _ id _)
  · exact choose (abandon _ id _ _) (takeItem _ id _ _ _)
  · exact actUpon _ id _ _ _ _
  · rename_i channel error _
    cases channel <;> exact finishChannel _ id _
  · simp only [SameCourse, withoutFetches]
    cases store.channels.unwind? id <;> rfl

theorem stepLoop (preference : Preference) :
    SameCourse (store.stepLoop preference run) (store.withoutFetches.stepLoop preference run) := by
  have same : store.withoutFetches.loopStage? run = store.loopStage? run := rfl
  have stops : SameCourse (store.stopLoop run) (store.withoutFetches.stopLoop run) := by
    have same : store.withoutFetches.isCancelled run = store.isCancelled run := rfl
    unfold stopLoop
    rw [same]
    split <;> rfl
  unfold LiveStore.stepLoop
  rw [same]
  split
  · exact choose stops rfl
  · rfl
  · refine choose stops ?_
    have same : ∀ flight, store.withoutFetches.channels.outcome? flight = store.channels.outcome? flight :=
      fun _ => rfl
    rw [same]
    split <;> rfl
  · refine choose stops ?_
    have same : store.withoutFetches.now = store.now := rfl
    rw [same]
    split <;> rfl
  · rfl
  · rfl

end SameCourse

/-- Nothing else looks at the fetches. -/
theorem move?_withoutFetches (store : LiveStore) (notOfFetches : move.isOfFetches = false) :
    SameCourse (store.move? move) (store.withoutFetches.move? move) := by
  cases move with
  | subscribe | unsubscribe | receive | refresh | answerFetch => cases notOfFetches
  | start | cancel | grantChannel | refuseChannel | send | endChannel | wait => rfl
  | step preference task =>
    cases task with
    | refresh id => cases notOfFetches
    | channel id => exact .stepChannel store id preference
    | syncLoop run => exact .stepLoop store run preference

/-- Stores that differ in their fetches only can take the same moves, but for those of the fetches. -/
theorem move_of_alike {one one' other : LiveStore} (alike : one.withoutFetches = other.withoutFetches)
    (notOfFetches : move.isOfFetches = false) (taken : one.move? move = some one') :
    ∃ other', other.move? move = some other' ∧ one'.withoutFetches = other'.withoutFetches := by
  have course := (move?_withoutFetches one notOfFetches).trans
    (alike ▸ (move?_withoutFetches other notOfFetches).symm)
  rw [taken, Option.map_some, eq_comm, Option.map_eq_some_iff] at course
  obtain ⟨other', taken', same⟩ := course
  exact ⟨other', taken', same.symm⟩

/-- Whatever the fetches do, the loops and the attempts take the course that they would take without. -/
theorem reach_withoutFetches (reach : Reach move? first past last) :
    ∃ past' last', Reach move? first past' last' ∧
      past'.map Prod.snd = (past.map Prod.snd).filter (!·.isOfFetches) ∧
      last.withoutFetches = last'.withoutFetches := by
  induction reach with
  | start => exact ⟨[], first, .start, rfl, rfl⟩
  | @next past store move store' _ taken ih =>
    obtain ⟨past', other, reach', moves, alike⟩ := ih
    cases ofFetches : move.isOfFetches with
    | true =>
      refine ⟨past', other, reach', ?_, (withoutFetches_of_fetch taken ofFetches).trans alike⟩
      simp [moves, ofFetches]
    | false =>
      obtain ⟨other', taken', alike'⟩ := move_of_alike alike ofFetches taken
      refine ⟨past' ++ [(other, move)], other', reach'.next taken', ?_, alike'⟩
      simp [moves, ofFetches]

end SessionBoard.LiveStore
