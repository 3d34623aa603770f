import SessionBoard.Proofs.SingleFlight.Exclusion

namespace SessionBoard.SingleFlight

variable {σ α : Type}

/-- Moves, oldest first, with the states that they found. -/
abbrev History (σ α : Type) := List (SingleFlight σ α × Move σ α)

namespace History

/-- The flight that a request is given. -/
@[simp] def returned? : SingleFlight σ α × Move σ α → Option Nat
  | (flights, .trigger) => some flights.trigger.2
  | _ => none

/-- The execution that a request launches, unless one is queued already. -/
def launched? : SingleFlight σ α × Move σ α → Option Nat
  | (flights, .trigger) =>
    match flights.slot with
    | .idle | .pending _ => some flights.trigger.2
    | .queued _ _ => none
  | _ => none

@[simp] def begun? : SingleFlight σ α × Move σ α → Option Nat
  | (_, .begin id _) => some id
  | _ => none

@[simp] def ended? : SingleFlight σ α × Move σ α → Option (Nat × Option α)
  | (_, .finish id outcome) => some (id, outcome)
  | _ => none

@[simp] def settled? : SingleFlight σ α × Move σ α → Option Nat
  | (_, .settle id) => some id
  | _ => none

variable (past : History σ α)

/-- The flights that the requests were given, in the order of the requests. -/
def returned : List Nat := past.filterMap returned?

/-- The executions in the order of their launch. -/
def launched : List Nat := past.filterMap launched?

/-- The executions that have called their operation, in that order. -/
def begun : List Nat := past.filterMap begun?

/-- What the operations came to, in the order in which they ended. -/
def ended : List (Nat × Option α) := past.filterMap ended?

/-- The executions that have settled, in that order. -/
def settled : List Nat := past.filterMap settled?

theorem returned_concat (moment) : returned (past ++ [moment]) = past.returned ++ (returned? moment).toList :=
  filterMap_next ..

theorem launched_concat (moment) : launched (past ++ [moment]) = past.launched ++ (launched? moment).toList :=
  filterMap_next ..

theorem begun_concat (moment) : begun (past ++ [moment]) = past.begun ++ (begun? moment).toList :=
  filterMap_next ..

theorem ended_concat (moment) : ended (past ++ [moment]) = past.ended ++ (ended? moment).toList :=
  filterMap_next ..

theorem settled_concat (moment) : settled (past ++ [moment]) = past.settled ++ (settled? moment).toList :=
  filterMap_next ..

end History

/-- The lists that a history gives, against the stages of the executions: which of them have been launched, have
begun, ended and settled, each of it in the order of the launch. -/
structure Tally (launched begun : List Nat) (ended : List (Nat × Option α)) (settled : List Nat)
    (flights : SingleFlight σ α) : Prop where
  launched_eq : launched = List.range flights.executions.length
  begun_eq : begun = List.range begun.length
  ended_eq : ended.map Prod.fst = List.range ended.length
  settled_eq : settled = List.range settled.length
  begun_first : FirstReached Stage.hasBegun flights.executions begun.length
  ended_first : FirstReached (fun stage => stage.ending?.isSome) flights.executions ended.length
  /-- Whatever has ended keeps its outcome. -/
  outcome : ∀ {id : Nat} {outcome : Option α}, (id, outcome) ∈ ended →
    ∃ stage, flights.stage? id = some stage ∧ stage.ending? = some outcome
  sequenced : flights.Sequenced settled.length

namespace Tally

variable {launched begun settled : List Nat} {ended : List (Nat × Option α)}
  {flights flights' : SingleFlight σ α} {id : Nat}

theorem nil : Tally [] [] [] [] ({} : SingleFlight σ α) where
  launched_eq := rfl
  begun_eq := rfl
  ended_eq := rfl
  settled_eq := rfl
  begun_first := .nil _
  ended_first := .nil _
  outcome := by simp
  sequenced := sequenced_start

variable (tally : Tally launched begun ended settled flights)

include tally

theorem settled_le_ended : settled.length ≤ ended.length :=
  tally.ended_first.le_of_imp tally.sequenced.prior fun _ => Stage.ending_of_isSettled

theorem ended_le_begun : ended.length ≤ begun.length :=
  tally.begun_first.le_of_imp tally.ended_first fun _ => Stage.hasBegun_of_ending

/-- A follow-up does not begin before the execution ahead of it has settled. -/
theorem begun_le_settled : begun.length ≤ settled.length + 1 := by
  rw [← Nat.not_lt]
  intro less
  have within := Nat.lt_of_lt_of_le less tally.begun_first.le
  have atId := List.getElem?_eq_getElem within
  have begun := (tally.begun_first.iff atId).mpr less
  rw [tally.sequenced.followUp_launched atId] at begun
  cases begun

/-- The next execution in turn begins. -/
theorem eq_of_begin {progress : σ} (run : flights.begin? id progress = some flights') :
    id = begun.length := by
  have turn := tally.sequenced.eq_of_begin run
  obtain ⟨after, atId, _⟩ := begin?_eq_some.mp run
  have notBegun : ¬id < begun.length := by simp [← tally.begun_first.iff atId, Stage.hasBegun]
  have least := Nat.le_trans tally.settled_le_ended tally.ended_le_begun
  omega

/-- The execution whose operation is under way is the next one to end. -/
theorem eq_of_running {progress : σ} (atId : flights.stage? id = some (.running progress)) :
    id = ended.length := by
  have turn := tally.sequenced.eq_of_begun atId rfl rfl
  have notEnded : ¬id < ended.length := by simp [← tally.ended_first.iff atId, Stage.ending?]
  have least := tally.settled_le_ended
  omega

/-- What has ended keeps its outcome under a change that takes none away. -/
theorem outcome_withStage {old new : Stage σ α} (atId : flights.stage? id = some old)
    (kept : ∀ outcome, old.ending? = some outcome → new.ending? = some outcome) {other : Nat}
    {outcome : Option α} (member : (other, outcome) ∈ ended) :
    ∃ stage, (flights.withStage id new).stage? other = some stage ∧ stage.ending? = some outcome := by
  obtain ⟨stage, atOther, ending⟩ := tally.outcome member
  rw [stage?_withStage atId]
  by_cases same : other = id
  · subst same
    cases Option.some.inj (atOther.symm.trans atId)
    exact ⟨new, if_pos rfl, kept _ ending⟩
  · exact ⟨stage, (if_neg same).trans atOther, ending⟩

theorem lt_of_mem_ended {outcome : Option α} (member : (id, outcome) ∈ ended) : id < ended.length := by
  have within := List.mem_map_of_mem (f := Prod.fst) member
  rwa [tally.ended_eq, List.mem_range] at within

/-- An execution that has ended came to the outcome that it ended with. -/
theorem mem_ended {stage : Stage σ α} {outcome : Option α} (atId : flights.stage? id = some stage)
    (ending : stage.ending? = some outcome) : (id, outcome) ∈ ended := by
  have within : id ∈ ended.map Prod.fst := by
    rw [tally.ended_eq, List.mem_range]
    exact (tally.ended_first.iff atId).mp (by simp [ending])
  obtain ⟨⟨_, other⟩, member, rfl⟩ := List.mem_map.mp within
  obtain ⟨same, atSame, ended⟩ := tally.outcome member
  cases Option.some.inj (atSame.symm.trans atId)
  cases Option.some.inj (ended.symm.trans ending)
  exact member

theorem launch {after : Option Nat} (grown : flights.trigger.1.executions =
      flights.executions ++ [.launched after]) :
    Tally (launched ++ [flights.executions.length]) begun ended settled flights.trigger.1 where
  launched_eq := by
    rw [grown, List.length_append, List.length_singleton, List.range_succ, ← tally.launched_eq]
  begun_eq := tally.begun_eq
  ended_eq := tally.ended_eq
  settled_eq := tally.settled_eq
  begun_first := grown ▸ tally.begun_first.append rfl
  ended_first := grown ▸ tally.ended_first.append rfl
  outcome := by
    intro id outcome member
    obtain ⟨stage, atId, ending⟩ := tally.outcome member
    refine ⟨stage, ?_, ending⟩
    rw [stage?, grown, List.getElem?_append_left (stage?_lt atId)]
    exact atId
  sequenced := tally.sequenced.trigger

theorem begin {progress : σ} (run : flights.begin? id progress = some flights') :
    Tally launched (begun ++ [id]) ended settled flights' := by
  have turn := tally.eq_of_begin run
  have seq := tally.sequenced.begin run
  obtain ⟨after, atId, _, rfl⟩ := begin?_eq_some.mp run
  subst turn
  refine ⟨?_, ?_, tally.ended_eq, tally.settled_eq, ?_, tally.ended_first.set_same atId rfl,
    tally.outcome_withStage atId (by simp [Stage.ending?]), seq⟩
  · rw [length_withStage]
    exact tally.launched_eq
  · rw [List.length_append, List.length_singleton, List.range_succ, ← tally.begun_eq]
  · rw [List.length_append]
    exact tally.begun_first.set_next (stage?_lt atId) rfl

/-- A change by which nothing begins, ends or settles. -/
theorem withStage {old new : Stage σ α} (atId : flights.stage? id = some old)
    (sameBegun : new.hasBegun = old.hasBegun) (sameEnding : new.ending? = old.ending?)
    (seq : (flights.withStage id new).Sequenced settled.length) :
    Tally launched begun ended settled (flights.withStage id new) where
  launched_eq := tally.launched_eq.trans (by rw [length_withStage])
  begun_eq := tally.begun_eq
  ended_eq := tally.ended_eq
  settled_eq := tally.settled_eq
  begun_first := tally.begun_first.set_same atId sameBegun
  ended_first := tally.ended_first.set_same atId (by rw [sameEnding])
  outcome := tally.outcome_withStage atId fun _ => sameEnding.trans
  sequenced := seq

theorem report {progress : σ} (run : flights.report? id progress = some flights') :
    Tally launched begun ended settled flights' := by
  have seq := tally.sequenced.report run
  obtain ⟨⟨earlier, atId⟩, rfl⟩ := report?_eq_some.mp run
  exact tally.withStage atId rfl rfl seq

theorem finish {outcome : Option α} (run : flights.finish? id outcome = some flights') :
    Tally launched begun (ended ++ [(id, outcome)]) settled flights' := by
  have seq := tally.sequenced.finish run
  obtain ⟨⟨progress, atId⟩, rfl⟩ := finish?_eq_some.mp run
  have turn := tally.eq_of_running atId
  subst turn
  refine ⟨?_, tally.begun_eq, ?_, tally.settled_eq, tally.begun_first.set_same atId rfl, ?_, ?_, seq⟩
  · rw [length_withStage]
    exact tally.launched_eq
  · rw [List.map_append, tally.ended_eq, List.length_append, List.length_singleton, List.range_succ]
    rfl
  · rw [List.length_append]
    exact tally.ended_first.set_next (stage?_lt atId) rfl
  · intro other outcome' member
    rcases List.mem_append.mp member with earlier | last
    · exact tally.outcome_withStage atId (by simp [Stage.ending?]) earlier
    · cases List.mem_singleton.mp last
      exact ⟨.returned outcome, stage?_withStage_self atId _, rfl⟩

theorem settle (run : flights.settle? id = some flights') :
    Tally launched begun ended (settled ++ [id]) flights' := by
  have seq := tally.sequenced.settle run
  have turn := (tally.sequenced.settle_slot run).1
  obtain ⟨outcome, atId, rfl⟩ := settle?_eq_some.mp run
  have kept : ∀ {other ending}, (other, ending) ∈ ended → ∃ stage,
      (flights.withStage id (.settled outcome)).stage? other = some stage ∧ stage.ending? = some ending :=
    tally.outcome_withStage atId (by simp [Stage.ending?])
  refine ⟨?_, tally.begun_eq, tally.ended_eq, ?_, tally.begun_first.set_same atId rfl,
    tally.ended_first.set_same atId rfl, kept, ?_⟩
  · exact tally.launched_eq.trans (by rw [length_withStage])
  · rw [List.length_append, List.length_singleton, List.range_succ, ← tally.settled_eq, turn]
  · rw [List.length_append]
    exact seq

theorem resolve (run : flights.resolve? id = some flights') :
    Tally launched begun ended settled flights' := by
  have seq := tally.sequenced.resolve run
  obtain ⟨outcome, atId, rfl⟩ := resolve?_eq_some.mp run
  exact tally.withStage atId rfl rfl seq

end Tally

/-- A history and the state that it leads to agree. -/
def Chronicle (past : History σ α) (flights : SingleFlight σ α) : Prop :=
  Tally past.launched past.begun past.ended past.settled flights

variable {past : History σ α} {flights flights' : SingleFlight σ α}

theorem launched?_trigger (flights : SingleFlight σ α) :
    (History.launched? (flights, .trigger) = none ∧ flights.trigger.1 = flights) ∨
      ∃ after, History.launched? (flights, .trigger) = some flights.executions.length ∧
        flights.trigger.1.executions = flights.executions ++ [.launched after] := by
  cases slot : flights.slot with
  | idle => exact .inr ⟨none, by simp [History.launched?, trigger, slot]⟩
  | pending current => exact .inr ⟨some current, by simp [History.launched?, trigger, slot]⟩
  | queued current followUp => exact .inl (by simp [History.launched?, trigger, slot])

theorem Chronicle.next {move : Move σ α} (chronicle : Chronicle past flights)
    (taken : flights.move? move = some flights') : Chronicle (past ++ [(flights, move)]) flights' := by
  unfold Chronicle
  rw [History.launched_concat, History.begun_concat, History.ended_concat, History.settled_concat]
  cases move with
  | trigger =>
    cases taken
    simp only [History.begun?, History.ended?, History.settled?, Option.toList_none, List.append_nil]
    rcases launched?_trigger flights with ⟨none, same⟩ | ⟨after, some, grown⟩
    · rw [none, same, Option.toList_none, List.append_nil]
      exact chronicle
    · rw [some]
      exact Tally.launch chronicle grown
  | begin id progress => simpa [History.launched?] using Tally.begin chronicle taken
  | report id progress => simpa [History.launched?] using Tally.report chronicle taken
  | finish id outcome => simpa [History.launched?] using Tally.finish chronicle taken
  | settle id => simpa [History.launched?] using Tally.settle chronicle taken
  | resolve id => simpa [History.launched?] using Tally.resolve chronicle taken

theorem chronicle_of_reach (reach : Reach move? {} past flights) : Chronicle past flights := by
  induction reach with
  | start => exact .nil
  | next _ taken ih => exact ih.next taken

end SessionBoard.SingleFlight
