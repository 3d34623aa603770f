import SessionBoard.Proofs.Store.Pacing

namespace SessionBoard

inductive LoopAct
  /-- The loop asks for a fresh list. -/
  | requestsList
  /-- The loop asks for a channel and goes on to wait for it. -/
  | requestsChannel
  | sleeps
  | wakes
  | stops
  deriving DecidableEq, Repr

/-- What a loop does by which it comes from one stage to the other. -/
def LoopStage.actTo? : LoopStage → LoopStage → Option LoopAct
  | .stopped, _ => none
  | _, .stopped => some .stops
  | .ready, .requested => some .requestsList
  | .requested, .awaiting _ => some .requestsChannel
  | .awaiting _, .sleeping _ => some .sleeps
  | .sleeping _, .ready => some .wakes
  | _, _ => none

/-- What a loop does in this stage, unless it stops. -/
def LoopStage.due : LoopStage → LoopAct
  | .ready => .requestsList
  | .requested => .requestsChannel
  | .awaiting _ => .sleeps
  | .sleeping _ => .wakes
  | .stopped => .stops

/-- A loop has come from one stage to another by these acts. However the other tasks come in between, it asks
for a fresh list, asks for a channel, falls asleep once its flight has resolved, wakes up and starts over, until
it stops. -/
inductive LoopCourse (first : LoopStage) : List LoopAct → LoopStage → Prop
  | start : LoopCourse first [] first
  | next {acts stage act stage'} : LoopCourse first acts stage → stage.actTo? stage' = some act →
      LoopCourse first (acts ++ [act]) stage'

namespace LoopCourse

variable {first last : LoopStage} {acts : List LoopAct}

/-- What a loop does first leads it to where it does the rest. -/
theorem head (course : LoopCourse first acts last) :
    acts = [] ∧ last = first ∨
      ∃ act rest middle, acts = act :: rest ∧ first.actTo? middle = some act ∧ LoopCourse middle rest last := by
  induction course with
  | start => exact .inl ⟨rfl, rfl⟩
  | @next acts stage act stage' _ leads ih =>
    rcases ih with ⟨rfl, rfl⟩ | ⟨act', rest, middle, rfl, begins, course⟩
    · exact .inr ⟨act, [], stage', rfl, leads, .start⟩
    · exact .inr ⟨act', rest ++ [act], middle, rfl, begins, course.next leads⟩

/-- A loop that has stopped does nothing more. -/
theorem of_stopped (course : LoopCourse .stopped acts last) : acts = [] ∧ last = .stopped := by
  rcases course.head with still | ⟨act, rest, middle, _, leads, _⟩
  · exact still
  · cases leads

/-- A loop stays where it is, stops for good or does what is due. -/
theorem goesOn (course : LoopCourse first acts last) :
    acts = [] ∧ last = first ∨ acts = [.stops] ∧ last = .stopped ∨
      ∃ rest middle, acts = first.due :: rest ∧ first.actTo? middle = some first.due ∧ middle ≠ .stopped ∧
        LoopCourse middle rest last := by
  rcases course.head with still | ⟨act, rest, middle, rfl, leads, onward⟩
  · exact .inl still
  · refine .inr ?_
    by_cases stopped : middle = .stopped
    · subst stopped
      obtain ⟨rfl, rfl⟩ := onward.of_stopped
      cases first <;> cases leads <;> exact .inl ⟨rfl, rfl⟩
    · have isDue : act = first.due := by
        cases first <;> cases middle <;> cases leads <;> first | rfl | exact absurd rfl stopped
      exact .inr ⟨rest, middle, isDue ▸ rfl, isDue ▸ leads, stopped, onward⟩

/-- A loop that is ready to begin asks for a list before it asks for a channel. -/
theorem list_first (course : LoopCourse .ready acts last) {before after : List LoopAct}
    (asks : acts = before ++ .requestsChannel :: after) : [.requestsList] <+: before := by
  rcases course.goesOn with ⟨rfl, _⟩ | ⟨rfl, _⟩ | ⟨rest, middle, rfl, _⟩
  · simp at asks
  · rcases before with _ | ⟨act, before⟩ <;> simp at asks
  · rcases before with _ | ⟨act, before⟩
    · cases asks
    · obtain ⟨same, _⟩ := List.cons.inj asks
      exact ⟨before, same ▸ rfl⟩

/-- A loop that was ready to begin and has come to wait for something has asked for both. -/
theorem both_asked (course : LoopCourse .ready acts last)
    (waits : last ≠ .ready ∧ last ≠ .requested ∧ last ≠ .stopped) :
    [.requestsList, .requestsChannel] <+: acts := by
  rcases course.goesOn with ⟨_, same⟩ | ⟨_, stopped⟩ | ⟨rest, middle, rfl, leads, _, onward⟩
  · exact absurd same waits.1
  · exact absurd stopped waits.2.2
  · cases middle <;> cases leads
    rcases onward.goesOn with ⟨_, same⟩ | ⟨_, stopped⟩ | ⟨rest, middle, rfl, _⟩
    · exact absurd same waits.2.1
    · exact absurd stopped waits.2.2
    · exact ⟨rest, rfl⟩

/-- A loop that sleeps wakes up before it does anything else. -/
theorem of_sleeping {deadline : Nat} (course : LoopCourse (.sleeping deadline) acts last) :
    acts = [] ∧ last = .sleeping deadline ∨ acts = [.stops] ∧ last = .stopped ∨
      ∃ rest, acts = .wakes :: rest ∧ LoopCourse .ready rest last := by
  rcases course.goesOn with still | stops | ⟨rest, middle, rfl, leads, going, onward⟩
  · exact .inl still
  · exact .inr (.inl stops)
  · cases middle <;> cases leads
    exact .inr (.inr ⟨rest, rfl, onward⟩)

/-- A loop that sleeps wakes up and asks for a list before it asks for a channel. -/
theorem list_first_of_sleeping {deadline : Nat} (course : LoopCourse (.sleeping deadline) acts last)
    {before after : List LoopAct} (asks : acts = before ++ .requestsChannel :: after) :
    [.wakes, .requestsList] <+: before := by
  rcases course.of_sleeping with ⟨rfl, _⟩ | ⟨rfl, _⟩ | ⟨acts, rfl, onward⟩
  · simp at asks
  · rcases before with _ | ⟨act, before⟩ <;> simp at asks
  · rcases before with _ | ⟨act, before⟩
    · cases asks
    · obtain ⟨same, asks⟩ := List.cons.inj asks
      exact List.cons_prefix_cons.mpr ⟨same, onward.list_first asks⟩

end LoopCourse

namespace LiveStore

/-- What the loop of this run does. -/
def loopAct? (run : Nat) : LiveStore × Move → Option LoopAct
  | (store, .step preference (.syncLoop other)) =>
    if other = run then do
      let stage ← store.loopStage? run
      let stage' ← (← store.stepLoop preference run).loopStage? run
      stage.actTo? stage'
    else none
  | _ => none

/-- What the loop of this run has done, in that order. -/
def loopActs (run : Nat) (past : History) : List LoopAct :=
  past.filterMap (loopAct? run)

variable {store store' first last : LiveStore} {past : History} {move : Move} {preference : Preference}
  {run : Nat}

theorem loopActs_concat (run : Nat) (past : History) (moment : LiveStore × Move) :
    loopActs run (past ++ [moment]) = loopActs run past ++ (loopAct? run moment).toList :=
  filterMap_next ..

/-- An act is a step of the loop itself, from the one stage to the other. -/
theorem loopAct?_eq_some {act : LoopAct} (acts : loopAct? run (store, move) = some act) :
    ∃ preference stage store' stage', move = .step preference (.syncLoop run) ∧
      store.loopStage? run = some stage ∧ store.stepLoop preference run = some store' ∧
      store'.loopStage? run = some stage' ∧ stage.actTo? stage' = some act := by
  unfold loopAct? at acts
  split at acts
  · rename_i preference other same
    cases same
    split at acts
    · rename_i own
      subst own
      obtain ⟨stage, atRun, acts⟩ := Option.bind_eq_some_iff.mp acts
      obtain ⟨store', taken, acts⟩ := Option.bind_eq_some_iff.mp acts
      obtain ⟨stage', now, acts⟩ := Option.bind_eq_some_iff.mp acts
      exact ⟨preference, stage, store', stage', rfl, atRun, taken, now, acts⟩
    · cases acts
  · cases acts

/-- A loop that asks for a list is given the flight of a fetch. -/
theorem requested_of_act (acts : loopAct? run (store, move) = some .requestsList) :
    fetchEvent? (store, move) = some (.requested store.refresh.2) := by
  obtain ⟨preference, stage, store', stage', rfl, atRun, taken, now, acts⟩ := loopAct?_eq_some acts
  have begins : store.beginsCycle preference run = true := by
    cases stepLoop_cases taken with
    | requests begins => exact begins
    | stops | opens | sleeps | wakes =>
      cases eq_of_loopStage?_withLoop now
      cases stage <;> cases acts
  simp [fetchEvent?, stepEvent?, begins]

theorem stage_of_act (acts : loopAct? run (store, move) = some .requestsChannel) :
    ∃ preference, move = .step preference (.syncLoop run) ∧ store.loopStage? run = some .requested := by
  obtain ⟨preference, stage, _, stage', rfl, atRun, _, _, leads⟩ := loopAct?_eq_some acts
  cases stage <;> cases stage' <;> cases leads
  exact ⟨preference, rfl, atRun⟩

/-- A loop that asks for a channel asks for an attempt. -/
theorem triggered_of_act (acts : loopAct? run (store, move) = some .requestsChannel) :
    attemptMove? (store, move) = some .trigger := by
  obtain ⟨_, rfl, requested⟩ := stage_of_act acts
  exact if_pos requested

theorem LoopStep.loopStage_eq (step : LoopStep store preference run store') {stage : LoopStage}
    (atRun : store.loopStage? run = some stage) (going : stage ≠ .stopped) :
    ∃ stage' act, store'.loopStage? run = some stage' ∧ stage.actTo? stage' = some act := by
  have now : ∀ {changed : LiveStore} {stage'}, changed.loopStage? run = some stage →
      (changed.withLoop run stage').loopStage? run = some stage' := by
    intro changed stage' before
    rw [loopStage?_withLoop, before]
    simp
  cases step with
  | stops =>
    refine ⟨.stopped, .stops, now atRun, ?_⟩
    cases stage <;> simp_all [LoopStage.actTo?]
  | requests begins =>
    have ready : store.loopStage? run = some .ready := by
      simp only [beginsCycle, Bool.and_eq_true, decide_eq_true_eq] at begins
      exact begins.1
    cases atRun.symm.trans ready
    exact ⟨.requested, .requestsList, now atRun, rfl⟩
  | opens requested =>
    cases atRun.symm.trans requested
    exact ⟨_, .requestsChannel, now atRun, rfl⟩
  | sleeps awaiting =>
    cases atRun.symm.trans awaiting
    exact ⟨_, .sleeps, now atRun, rfl⟩
  | wakes sleeping =>
    cases atRun.symm.trans sleeping
    exact ⟨_, .wakes, now atRun, rfl⟩

/-- A move is an act of the loop or leaves the loop where it is. -/
theorem course_of_move {stage : LoopStage} (taken : store.move? move = some store')
    (atRun : store.loopStage? run = some stage) :
    ∃ stage', store'.loopStage? run = some stage' ∧
      ((loopAct? run (store, move) = none ∧ stage' = stage) ∨
        ∃ act, loopAct? run (store, move) = some act ∧ stage.actTo? stage' = some act) := by
  by_cases own : ∃ preference, move = .step preference (.syncLoop run)
  · obtain ⟨preference, rfl⟩ := own
    have going : stage ≠ .stopped := by
      rintro rfl
      simp [move?, step, stepLoop, atRun] at taken
    obtain ⟨stage', act, now, leads⟩ := (stepLoop_cases taken).loopStage_eq atRun going
    have stepped : store.stepLoop preference run = some store' := taken
    refine ⟨stage', now, .inr ⟨act, ?_, leads⟩⟩
    simp [loopAct?, atRun, stepped, now, leads]
  · have silent : loopAct? run (store, move) = none := by
      unfold loopAct?
      split
      · rename_i preference other same
        cases same
        refine if_neg ?_
        rintro rfl
        exact own ⟨preference, rfl⟩
      · rfl
    rcases (rostering_of_move taken).loopStage_eq run with isOwn | same | ⟨unknown, _⟩
    · exact absurd isOwn own
    · exact ⟨stage, same.trans atRun, .inl ⟨silent, rfl⟩⟩
    · cases unknown.symm.trans atRun

/-- Nobody but a loop asks for an attempt. -/
theorem act_of_triggered (asked : attemptMove? (store, move) = some .trigger) :
    ∃ run, store.loopStage? run = some .requested ∧ loopAct? run (store, move) = some .requestsChannel := by
  unfold attemptMove? at asked
  split at asked
  · obtain ⟨_, _, between⟩ := Option.bind_eq_some_iff.mp asked
    exact absurd between (moveBetween?_ne_trigger _ _ _)
  · rename_i preference run same
    cases same
    split at asked
    · rename_i requested
      have stepped : store.stepLoop preference run = _ := stepLoop_requested requested
      obtain ⟨stage', act, now, leads⟩ := (stepLoop_cases stepped).loopStage_eq requested (by simp)
      cases eq_of_loopStage?_withLoop now
      cases leads
      refine ⟨run, requested, ?_⟩
      simp only [loopAct?, if_true, requested, stepped, now, Option.bind_eq_bind, Option.bind_some]
      rfl
    · cases asked
  · cases asked

theorem course_of_reach {stage : LoopStage} (reach : Reach move? first past last)
    (atFirst : first.loopStage? run = some stage) :
    ∃ stage', last.loopStage? run = some stage' ∧ LoopCourse stage (loopActs run past) stage' := by
  induction reach with
  | start => exact ⟨stage, atFirst, .start⟩
  | next _ taken ih =>
    obtain ⟨stage', atRun, course⟩ := ih
    obtain ⟨stage'', now, ⟨silent, rfl⟩ | ⟨act, said, leads⟩⟩ := course_of_move taken atRun
    · refine ⟨stage'', now, ?_⟩
      rw [loopActs_concat, silent]
      simpa using course
    · refine ⟨stage'', now, ?_⟩
      rw [loopActs_concat, said]
      exact course.next leads

/-- Where a loop has asked for both, it has asked for a list first and then for a channel. -/
theorem moments_of_acts (asked : [.requestsList, .requestsChannel] <+: loopActs run past) :
    ∃ before moment after, past = before ++ moment :: after ∧
      (∃ listing ∈ before, loopAct? run listing = some .requestsList) ∧
      loopAct? run moment = some .requestsChannel ∧ .requestsChannel ∉ loopActs run before := by
  obtain ⟨rest, acts⟩ := asked
  obtain ⟨before, listing, onward, rfl, silent, list, acts⟩ := List.filterMap_eq_cons_iff.mp acts.symm
  obtain ⟨between, moment, after, rfl, silent', channel, _⟩ := List.filterMap_eq_cons_iff.mp acts
  refine ⟨before ++ listing :: between, moment, after, by simp, ⟨listing, by simp, list⟩, channel, ?_⟩
  rw [loopActs, List.filterMap_append, List.filterMap_cons_some list,
    List.filterMap_eq_nil_iff.mpr silent, List.filterMap_eq_nil_iff.mpr silent']
  simp

end LiveStore

end SessionBoard
