import SessionBoard.Proofs.SingleFlight.Rest
import SessionBoard.Proofs.Store.Loops
import SessionBoard.Store.Schedule

namespace SessionBoard.LiveStore

variable {store store' : LiveStore} {past : History} {preference : Preference} {task : StoreTask} {id : Nat}

theorem isSome_choose (preference : Preference) (cancellation work : Option LiveStore) :
    (choose preference cancellation work).isSome = (cancellation.isSome || work.isSome) := by
  cases preference <;> cases cancellation <;> cases work <;> rfl

theorem choose_eq_none {cancellation work : Option LiveStore} (waits : choose preference cancellation work = none) :
    cancellation = none ∧ work = none := by
  have some := isSome_choose preference cancellation work
  rw [waits] at some
  cases cancellation <;> cases work <;> simp_all

/-- What a task looks at first does not decide whether it has to wait. -/
theorem isSome_step (preference : Preference) (task : StoreTask) :
    (store.step preference task).isSome = (store.step .cancellation task).isSome := by
  cases task with
  | refresh id => rfl
  | channel id =>
    simp only [step, stepChannel]
    split <;> simp only [isSome_choose]
  | syncLoop run =>
    simp only [step, stepLoop]
    split <;> simp only [isSome_choose]

/-- Only a task that is there can take a step. -/
theorem mem_tasks (taken : store.step preference task = some store') : task ∈ store.tasks := by
  rw [← Decidable.not_not (p := task ∈ store.tasks)]
  intro missing
  cases task with
  | refresh id =>
    have outside : store.refreshes.stage? id = none := by
      simpa [tasks, SingleFlight.stage?] using missing
    simp [step, stepRefresh, SingleFlight.unwind?, SingleFlight.settle?, SingleFlight.resolve?, outside] at taken
  | channel id =>
    have outside : store.channels.stage? id = none := by
      simpa [tasks, SingleFlight.stage?] using missing
    simp [step, stepChannel, SingleFlight.unwind?, SingleFlight.settle?, SingleFlight.resolve?, outside] at taken
  | syncLoop run =>
    have outside : store.loopStage? run = none := by
      simpa [tasks, loopStage?] using missing
    simp [step, stepLoop, outside] at taken

variable (rest : store.runnable = [])

include rest

/-- Where all tasks wait nothing happens unless something comes from outside. -/
theorem step_eq_none (preference : Preference) (task : StoreTask) : store.step preference task = none := by
  rw [Option.eq_none_iff_forall_ne_some]
  intro store' taken
  have waits := List.filter_eq_nil_iff.mp rest task (mem_tasks taken)
  rw [← isSome_step preference, taken] at waits
  exact waits rfl

theorem refreshes_atRest : store.refreshes.AtRest where
  unwound := by
    intro id
    rw [Option.eq_none_iff_forall_ne_some]
    intro refreshes run
    have waits := step_eq_none rest .work (.refresh id)
    rcases SingleFlight.unwind?_eq_some.mp run with ⟨_, atId, _⟩ | ⟨_, atId, _⟩ <;>
      simp [step, stepRefresh, atId, run] at waits
  waiting := by
    intro id after atId
    have waits := step_eq_none rest .work (.refresh id)
    exact SingleFlight.waiting_of_begin? (by simpa [step, stepRefresh, atId] using waits) atId

/-- A fetch that is under way waits for the server, which has no answer for it. -/
theorem asked_of_running {progress : FetchProgress} (atId : store.refreshes.stage? id = some (.running progress)) :
    progress = .asked ∧ store.server.fetchAnswers = [] := by
  have waits := step_eq_none rest .work (.refresh id)
  rw [step, stepRefresh, atId] at waits
  cases progress with
  | asked =>
    cases front : store.server.fetchAnswers with
    | nil => exact ⟨rfl, rfl⟩
    | cons answer answers => simp [front, SingleFlight.report?, atId] at waits
  | answered answer => simp [SingleFlight.finish?, atId] at waits

theorem channels_atRest : store.channels.AtRest where
  unwound := by
    intro id
    rw [Option.eq_none_iff_forall_ne_some]
    intro channels run
    have waits := step_eq_none rest .work (.channel id)
    rcases SingleFlight.unwind?_eq_some.mp run with ⟨_, atId, _⟩ | ⟨_, atId, _⟩ <;>
      simp [step, stepChannel, atId, run] at waits
  waiting := by
    intro id after atId
    have waits := step_eq_none rest .work (.channel id)
    exact SingleFlight.waiting_of_begin? (by simpa [step, stepChannel, atId] using waits) atId

omit rest in
theorem report_ne_none {progress progress' : ChannelProgress}
    (atId : store.channels.stage? id = some (.running progress)) : store.report id progress' ≠ none := by
  simp [report, SingleFlight.report?, atId]

omit rest in
/-- An attempt that would wait even if its run were cancelled does not see it cancelled. -/
theorem not_cancelled_of_abandon {progress : ChannelProgress} {run : Nat} {channel : Option Nat}
    (atId : store.channels.stage? id = some (.running progress))
    (waits : store.abandon id run channel = none) : ¬store.isCancelled run := by
  intro cancelled
  simp [abandon, cancelled, finishChannel, SingleFlight.finish?, atId] at waits

/-- An attempt that is under way belongs to a run that goes on, and waits for the server: for an answer
to its open, or for something to arrive on its channel. -/
theorem waiting_of_running {progress : ChannelProgress}
    (atId : store.channels.stage? id = some (.running progress)) :
    (∃ run, progress = .opening run ∧ ¬store.isCancelled run ∧ store.server.openAnswers = []) ∨
      ∃ run channel confirmed, progress = .open run channel confirmed ∧ ¬store.isCancelled run ∧
        store.server.take? channel = none := by
  have waits := step_eq_none rest .work (.channel id)
  rw [step, stepChannel, atId] at waits
  cases progress with
  | bound run => exact absurd (choose_eq_none waits).2 (report_ne_none atId)
  | opening run =>
    obtain ⟨stays, waits⟩ := choose_eq_none waits
    refine .inl ⟨run, rfl, not_cancelled_of_abandon atId stays, ?_⟩
    unfold takeChannel at waits
    split at waits
    · assumption
    · split at waits <;> exact absurd waits (report_ne_none atId)
  | «open» run channel confirmed =>
    obtain ⟨stays, waits⟩ := choose_eq_none waits
    refine .inr ⟨run, channel, confirmed, rfl, not_cancelled_of_abandon atId stays, ?_⟩
    rw [takeItem, Option.bind_eq_bind, Option.bind_eq_none_iff] at waits
    rw [Option.eq_none_iff_forall_ne_some]
    rintro ⟨item, server⟩ found
    have reports := waits _ found
    rcases item with _ | _ | _ <;> exact absurd reports (report_ne_none atId)
  | received run channel confirmed event =>
    cases event with
    | init => cases confirmed <;> exact absurd waits (report_ne_none atId)
    | update | other => exact absurd waits (report_ne_none atId)
  | failing channel error => simp [finishChannel, dispatch, SingleFlight.finish?, atId] at waits

omit rest in
theorem not_cancelled_of_stopLoop {run : Nat} (waits : store.stopLoop run = none) : ¬store.isCancelled run := by
  intro cancelled
  simp [stopLoop, cancelled] at waits

/-- A loop has stopped, or it goes on and waits for a flight or for the clock. -/
theorem waiting_of_loop {run : Nat} {stage : LoopStage} (atRun : store.loopStage? run = some stage) :
    stage = .stopped ∨ ¬store.isCancelled run ∧
      ((∃ flight, stage = .awaiting flight ∧ store.channels.outcome? flight = none) ∨
        ∃ deadline, stage = .sleeping deadline ∧ store.now < deadline) := by
  have waits := step_eq_none rest .work (.syncLoop run)
  rw [step, stepLoop, atRun] at waits
  cases stage with
  | ready => cases (choose_eq_none waits).2
  | requested => cases waits
  | awaiting flight =>
    obtain ⟨stays, waits⟩ := choose_eq_none waits
    refine .inr ⟨not_cancelled_of_stopLoop stays, .inl ⟨flight, rfl, ?_⟩⟩
    simpa using waits
  | sleeping deadline =>
    obtain ⟨stays, waits⟩ := choose_eq_none waits
    refine .inr ⟨not_cancelled_of_stopLoop stays, .inr ⟨deadline, rfl, ?_⟩⟩
    simpa using waits
  | stopped => exact .inl rfl

section

variable {options : SyncOptions} (reach : Reach move? { options := options } past store)

include reach

theorem refreshes_resting : store.refreshes.Resting :=
  (refreshes_atRest rest).resting (refreshes_reachable reach)

theorem channels_resting : store.channels.Resting :=
  (channels_atRest rest).resting ⟨_, attempts_of_reach reach⟩

/-- An attempt that is under way is bound to the last run that was started, and that run goes on. -/
theorem current_of_running {progress : ChannelProgress}
    (atId : store.channels.stage? id = some (.running progress)) :
    0 < store.currentRun ∧ ¬store.isCancelled store.currentRun ∧
      (progress = .opening store.currentRun ∨
        ∃ channel confirmed, progress = .open store.currentRun channel confirmed) := by
  have roster := roster_of_reach reach
  have looping := looping_of_reach reach
  have current : ∀ run, progress.run? = some run → ¬store.isCancelled run →
      0 < store.currentRun ∧ run = store.currentRun := by
    intro run atRun going
    obtain ⟨started, known⟩ := roster.bound id progress run atId atRun
    have notReplaced : ¬run < store.currentRun := fun replaced => going (looping.replaced run replaced)
    omega
  rcases waiting_of_running rest atId with ⟨run, rfl, going, _⟩ | ⟨run, channel, confirmed, rfl, going, _⟩
  · obtain ⟨started, rfl⟩ := current run rfl going
    exact ⟨started, going, .inl rfl⟩
  · obtain ⟨started, rfl⟩ := current run rfl going
    exact ⟨started, going, .inr ⟨channel, confirmed, rfl⟩⟩

end

end SessionBoard.LiveStore
