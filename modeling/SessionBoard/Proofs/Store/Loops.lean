import SessionBoard.Proofs.SingleFlight.Coalescing
import SessionBoard.Proofs.Store.Pacing

namespace SessionBoard.LiveStore

/-- The most recent run was shut down, or its handle was dropped, and none was started since. -/
def Dismissed (past : History) : Prop :=
  ∃ before found after, past = before ++ (found, .cancel (starts before)) :: after ∧ starts after = 0

variable {store store' : LiveStore} {past : History} {moment : LiveStore × Move} {move : Move}

theorem dismissed_concat :
    Dismissed (past ++ [moment]) ↔
      moment.2.isStart = false ∧ (Dismissed past ∨ moment.2.cancelled? = some (starts past)) := by
  constructor
  · rintro ⟨before, found, after, split, none⟩
    rcases split_next split with ⟨rfl, rfl, rfl⟩ | ⟨after, rfl, rfl⟩
    · exact ⟨rfl, .inr rfl⟩
    · obtain ⟨noStart, notNow⟩ := Roster.starts_concat_eq_zero.mp none
      exact ⟨notNow, .inl ⟨before, found, after, rfl, noStart⟩⟩
  · obtain ⟨found, move⟩ := moment
    rintro ⟨noStart, ⟨before, found', after, rfl, none⟩ | now⟩
    · exact ⟨before, found', after ++ [(found, move)], by simp,
        Roster.starts_concat_eq_zero.mpr ⟨none, noStart⟩⟩
    · cases move <;> cases now
      exact ⟨past, found, [], rfl, rfl⟩

/-- A run is cancelled once and for all, by name or because another one is started in its place. -/
theorem Rostering.isCancelled_iff (step : Rostering store store' move) (run : Nat) :
    store'.isCancelled run ↔ store.isCancelled run ∨
      run < store.runs.length ∧ (move.cancelled? = some run ∨ move.isStart ∧ run = store.currentRun) := by
  have ofCancel : ∀ other, ((cancelRun store.runs other)[run]?).any (·.cancelled) ↔
      store.isCancelled run ∨ run < store.runs.length ∧ run = other := by
    intro other
    rw [getElem?_cancelRun, isCancelled]
    by_cases known : run < store.runs.length
    · rw [List.getElem?_eq_getElem known]
      by_cases same : run = other
      · subst same
        simp [known]
      · simp [same]
    · simp [known]
  cases step with
  | started runs =>
    by_cases known : run < store.runs.length
    · rw [isCancelled, runs, List.getElem?_append_left (by rwa [length_cancelRun]), ofCancel]
      simp [Move.isStart, Move.cancelled?]
    · have fresh : ¬store'.isCancelled run := by
        rw [isCancelled, runs, List.getElem?_append_right (by rw [length_cancelRun]; omega), length_cancelRun,
          List.getElem?_singleton]
        split <;> simp
      have unknown : ¬store.isCancelled run := by
        simp [isCancelled, List.getElem?_eq_none (Nat.not_lt.mp known)]
      simp [fresh, unknown, known]
  | @cancelled other runs =>
    rw [isCancelled, runs, ofCancel]
    simp [Move.isStart, Move.cancelled?, eq_comm (a := run)]
  | looped _ _ runs =>
    rw [isCancelled, runs, ← isCancelled, isCancelled_withLoop]
    simp [Move.isStart, Move.cancelled?]
  | kept notStarted notCancelled runs =>
    rw [isCancelled, runs, ← isCancelled]
    simp [notStarted, notCancelled]

/-- Attempts are never forgotten. -/
theorem channels_length_le_of_move (taken : store.move? move = some store') :
    store.channels.executions.length ≤ store'.channels.executions.length := by
  have follows := (attempting_of_move taken).2
  cases said : attemptMove? (store, move) with
  | none =>
    rw [said] at follows
    exact Nat.le_of_eq (congrArg (·.executions.length) (Option.some.inj follows))
  | some attemptMove =>
    rw [said] at follows
    exact SingleFlight.length_le_of_move follows

/-- What a history says of the runs that are cancelled, and what the loops may wait for. Every run but the last
one is cancelled, the last one exactly if it was shut down or its handle was dropped, and no loop stops unless
its run is cancelled. -/
structure Looping (backoff : Nat) (past : History) (store : LiveStore) : Prop where
  replaced : ∀ run, run < store.currentRun → store.isCancelled run
  current : store.isCancelled store.currentRun ↔ Dismissed past
  stopped : ∀ run, 0 < run → store.loopStage? run = some .stopped → store.isCancelled run
  /-- The flight that a loop waits for has been launched. -/
  awaiting : ∀ run flight, store.loopStage? run = some (.awaiting flight) →
    flight < store.channels.executions.length
  sleeping : ∀ run deadline, store.loopStage? run = some (.sleeping deadline) → deadline ≤ store.now + backoff

namespace Looping

variable {backoff : Nat}

theorem start (options : SyncOptions) : Looping backoff [] { options := options } where
  replaced := by simp
  current := by
    constructor
    · simp [isCancelled]
    · rintro ⟨before, found, after, split, _⟩
      simp at split
  stopped := by
    intro run started atRun
    have known := lt_of_loopStage? atRun
    simp at known
    omega
  awaiting := by
    intro run flight atRun
    rcases run with _ | run <;> simp [loopStage?] at atRun
  sleeping := by
    intro run deadline atRun
    rcases run with _ | run <;> simp [loopStage?] at atRun

variable (looping : Looping backoff past store) (roster : Roster past store)
  (taken : store.move? move = some store')

include looping roster taken

theorem replaced_next {run : Nat} (replaced : run < store'.currentRun) : store'.isCancelled run := by
  have step := rostering_of_move taken
  have length := roster.length_eq
  have current := roster.current_eq
  rw [step.isCancelled_iff]
  cases step with
  | started _ current' =>
    rcases Nat.lt_or_eq_of_le (Nat.le_of_lt_succ (by omega : run < store.currentRun + 1)) with earlier | same
    · exact .inl (looping.replaced run earlier)
    · exact .inr ⟨by omega, .inr ⟨rfl, same⟩⟩
  | cancelled _ current' => exact .inl (looping.replaced run (current' ▸ replaced))
  | looped _ _ _ current' => exact .inl (looping.replaced run (current' ▸ replaced))
  | kept _ _ _ current' => exact .inl (looping.replaced run (current' ▸ replaced))

theorem current_next : store'.isCancelled store'.currentRun ↔ Dismissed (past ++ [(store, move)]) := by
  have step := rostering_of_move taken
  have length := roster.length_eq
  have current := roster.current_eq
  rw [step.isCancelled_iff, dismissed_concat]
  cases step with
  | started _ current' =>
    have fresh : ¬store.isCancelled store.runs.length := by simp [isCancelled]
    simp [current', fresh, Move.isStart]
  | @cancelled run _ current' =>
    have known : starts past < store.runs.length := by omega
    rw [current', looping.current]
    simp [Move.isStart, Move.cancelled?, known, current]
  | looped _ _ _ current' => simp [current', looping.current, Move.isStart, Move.cancelled?]
  | kept notStarted notCancelled _ current' => simp [current', looping.current, notStarted, notCancelled]

omit roster in
theorem stopped_next {run : Nat} (started : 0 < run) (atRun : store'.loopStage? run = some .stopped) :
    store'.isCancelled run := by
  have step := rostering_of_move taken
  rw [step.isCancelled_iff]
  rcases step.loopStage_eq run with ⟨preference, rfl⟩ | same | ⟨_, fresh⟩
  · cases stepLoop_cases taken with
    | stops cancelled => exact .inl cancelled
    | requests | opens | sleeps | wakes => cases eq_of_loopStage?_withLoop atRun
  · exact .inl (looping.stopped run started (same ▸ atRun))
  · cases atRun.symm.trans fresh

omit roster in
theorem awaiting_next (chronicle : SingleFlight.Chronicle (attemptHistory past) store.channels) {run flight : Nat}
    (atRun : store'.loopStage? run = some (.awaiting flight)) : flight < store'.channels.executions.length := by
  have grows := channels_length_le_of_move taken
  rcases (rostering_of_move taken).loopStage_eq run with ⟨preference, rfl⟩ | same | ⟨_, fresh⟩
  · cases stepLoop_cases taken with
    | opens =>
      cases eq_of_loopStage?_withLoop atRun
      have last := chronicle.sequenced.trigger_launched.2
      show store.channels.trigger.2 < store.channels.trigger.1.executions.length
      omega
    | stops | requests | sleeps | wakes => cases eq_of_loopStage?_withLoop atRun
  · exact Nat.lt_of_lt_of_le (looping.awaiting run flight (same ▸ atRun)) grows
  · cases atRun.symm.trans fresh

omit roster in
theorem sleeping_next (backoff_eq : store.options.backoff = backoff) {run deadline : Nat}
    (atRun : store'.loopStage? run = some (.sleeping deadline)) : deadline ≤ store'.now + backoff := by
  have passes := now_le_of_move taken
  rcases (rostering_of_move taken).loopStage_eq run with ⟨preference, rfl⟩ | same | ⟨_, fresh⟩
  · cases stepLoop_cases taken with
    | sleeps =>
      cases eq_of_loopStage?_withLoop atRun
      exact Nat.le_of_eq (backoff_eq ▸ rfl)
    | stops | requests | opens | wakes => cases eq_of_loopStage?_withLoop atRun
  · have bound := looping.sleeping run deadline (same ▸ atRun)
    omega
  · cases atRun.symm.trans fresh

end Looping

theorem looping_of_reach {options : SyncOptions} (reach : Reach move? { options := options } past store) :
    Looping options.backoff past store := by
  induction reach with
  | start => exact .start options
  | next reach taken ih =>
    have roster := roster_of_reach reach
    have chronicle := chronicle_of_reach reach
    have backoff_eq := congrArg SyncOptions.backoff (options_of_reach reach)
    exact ⟨fun _ => ih.replaced_next roster taken, ih.current_next roster taken,
      fun _ => ih.stopped_next taken, fun _ _ => ih.awaiting_next taken chronicle,
      fun _ _ => ih.sleeping_next taken backoff_eq⟩

end SessionBoard.LiveStore
