import SessionBoard.Proofs.Store.Connectivity
import SessionBoard.Proofs.Store.Cycle
import SessionBoard.Proofs.Store.Rest

namespace SessionBoard.LiveStore

/-- All attempts have resolved, and every loop has stopped but for those that are spared. Nothing happens to a
channel in such a store until one of these asks for it. -/
structure Unattended (spared : Nat → Prop) (store : LiveStore) : Prop where
  loops : ∀ run stage, store.loopStage? run = some stage → stage = .stopped ∨ spared run
  slot : store.channels.slot = .idle
  attempts : ∀ id, id < store.channels.executions.length → (store.channels.outcome? id).isSome

/-- No loop is left at all. -/
def Dormant (store : LiveStore) : Prop :=
  store.Unattended fun _ => False

variable {store store' first last : LiveStore} {past later : History} {spared : Nat → Prop} {move : Move}
  {id : Nat}

namespace Unattended

variable (unattended : store.Unattended spared)

include unattended

theorem resolved {stage : Stage ChannelProgress (Except SourceError Unit)}
    (atId : store.channels.stage? id = some stage) : ∃ outcome, stage = .resolved outcome := by
  have found := unattended.attempts id (SingleFlight.stage?_lt atId)
  obtain ⟨outcome, found⟩ := Option.isSome_iff_exists.mp found
  rw [SingleFlight.outcome?_eq_some, atId] at found
  exact ⟨outcome, Option.some.inj found⟩

theorem not_running {progress : ChannelProgress} : store.channels.stage? id ≠ some (.running progress) := by
  intro running
  obtain ⟨_, wrong⟩ := unattended.resolved running
  cases wrong

/-- An attempt that has resolved takes no step, so only a loop that is spared can bring one about. -/
theorem still (taken : store.move? move = some store')
    (noRequest : ∀ run, spared run → loopAct? run (store, move) ≠ some .requestsChannel) :
    attemptMove? (store, move) = none := by
  obtain ⟨attempting, follows⟩ := attempting_of_move taken
  cases said : attemptMove? (store, move) with
  | none => rfl
  | some attemptMove =>
    rw [said] at follows attempting
    have unresolved : ∀ {id stage}, store.channels.stage? id = some stage →
        ∃ outcome, stage = Stage.resolved outcome := fun atId => unattended.resolved atId
    generalize greeted? (store, move) = hears, signal? (store, move) = tells at attempting
    cases attempting with
    | launched =>
      obtain ⟨run, requested, asks⟩ := act_of_triggered said
      rcases unattended.loops run _ requested with wrong | isSpared
      · cases wrong
      · exact absurd asks (noRequest run isSpared)
    | begun =>
      obtain ⟨after, atId, _⟩ := SingleFlight.begin?_eq_some.mp follows
      obtain ⟨_, wrong⟩ := unresolved atId
      cases wrong
    | goesOn atId | repeated atId | confirmed atId | abandoned atId | failed atId =>
      exact absurd atId unattended.not_running
    | settled =>
      obtain ⟨_, atId, _⟩ := SingleFlight.settle?_eq_some.mp follows
      obtain ⟨_, wrong⟩ := unresolved atId
      cases wrong
    | resolved =>
      obtain ⟨_, atId, _⟩ := SingleFlight.resolve?_eq_some.mp follows
      obtain ⟨_, wrong⟩ := unresolved atId
      cases wrong

/-- A loop that has stopped takes no step, so only a start brings one about. -/
theorem loops_next (taken : store.move? move = some store') (noStart : move.isStart = false) {run : Nat}
    {stage : LoopStage} (atRun : store'.loopStage? run = some stage) : stage = .stopped ∨ spared run := by
  cases rostering_of_move taken with
  | started => cases noStart
  | cancelled runs =>
    rw [loopStage?, runs, stage_cancelRun] at atRun
    exact unattended.loops run stage atRun
  | @looped _ other stage' earlier atOther going runs =>
    rw [loopStage?, runs, ← loopStage?, loopStage?_withLoop] at atRun
    obtain ⟨before, atRun, same⟩ := Option.map_eq_some_iff.mp atRun
    by_cases own : run = other
    · subst own
      exact .inr ((unattended.loops run earlier atOther).resolve_left going)
    · rw [if_neg own] at same
      exact same ▸ unattended.loops run before atRun
  | kept _ _ runs =>
    rw [loopStage?, runs] at atRun
    exact unattended.loops run stage atRun

theorem next (taken : store.move? move = some store') (noStart : move.isStart = false)
    (noRequest : ∀ run, spared run → loopAct? run (store, move) ≠ some .requestsChannel) :
    store'.Unattended spared ∧ store'.channels = store.channels := by
  have follows := (attempting_of_move taken).2
  rw [unattended.still taken noRequest, Option.elim_none] at follows
  have same := (Option.some.inj follows).symm
  refine ⟨⟨fun _ _ => unattended.loops_next taken noStart, ?_, ?_⟩, same⟩
  · rw [same]
    exact unattended.slot
  · rw [same]
    exact unattended.attempts

end Unattended

theorem dormant_next (dormant : store.Dormant) (taken : store.move? move = some store')
    (noStart : move.isStart = false) : store'.Dormant :=
  (Unattended.next dormant taken noStart (by simp)).1

/-- A store that nobody starts again asks for no channel and tells nothing of one. -/
theorem dormant_of_reach (dormant : first.Dormant) (reach : Reach move? first later last)
    (noStart : starts later = 0) :
    last.Dormant ∧ opens later = [] ∧ announced later = [] ∧ last.server.opens = first.server.opens ∧
      last.board.connectivity = first.board.connectivity := by
  induction reach with
  | start => exact ⟨dormant, rfl, rfl, rfl, rfl⟩
  | @next later store move store' _ taken ih =>
    obtain ⟨noStart, notNow⟩ := Roster.starts_concat_eq_zero.mp noStart
    obtain ⟨still, noOpens, silent, sameOpens, sameHealth⟩ := ih noStart
    have attempt : attemptMove? (store, move) = none := Unattended.still still taken (by simp)
    have heard := (attempting_of_move taken).1
    rw [attempt] at heard
    have quiet : open? (store, move) = none ∧ signal? (store, move) = none := by
      refine ⟨by rw [open?, attempt], ?_⟩
      generalize greeted? (store, move) = hears, signal? (store, move) = tells at heard
      cases heard
      rfl
    refine ⟨dormant_next still taken notNow, ?_, ?_, ?_, ?_⟩
    · rw [opens_concat, noOpens, quiet.1]
      rfl
    · rw [announced_concat, silent, quiet.2]
      rfl
    · rw [opens_of_move taken, quiet.1, sameOpens]
      rfl
    · rw [connectivity_of_move taken, connectivity_of_moment, quiet.2, sameHealth]
      rfl

theorem dormant_start (options : SyncOptions) : Dormant { options := options } where
  loops run stage atRun := by
    obtain ⟨state, found, rfl⟩ := Option.map_eq_some_iff.mp atRun
    cases run with
    | zero =>
      cases found
      exact .inl rfl
    | succ run => cases found
  slot := rfl
  attempts id within := absurd within (Nat.not_lt_zero id)

/-- A store that has never been started has nothing to tell of a channel. -/
theorem connectivity_of_unstarted {options : SyncOptions}
    (reach : Reach move? { options := options } past store) (unstarted : starts past = 0) :
    store.board.connectivity = .unknown :=
  (dormant_of_reach (dormant_start options) reach unstarted).2.2.2.2

/-- Once the last run is dismissed and all tasks wait nobody looks after a channel any more. -/
theorem dormant_of_dismissed {options : SyncOptions} (reach : Reach move? { options := options } past store)
    (rest : store.runnable = []) (dismissed : Dismissed past) : store.Dormant := by
  have roster := roster_of_reach reach
  have looping := looping_of_reach reach
  have cancelled := looping.current.mpr dismissed
  have loops : ∀ run stage, store.loopStage? run = some stage → stage = .stopped ∨ False := by
    intro run stage atRun
    have known := lt_of_loopStage? atRun
    have length := roster.length_eq
    have current := roster.current_eq
    refine .inl ((waiting_of_loop rest atRun).resolve_right ?_)
    rintro ⟨alive, _⟩
    rcases Nat.lt_or_eq_of_le (by omega : run ≤ store.currentRun) with replaced | rfl
    · exact alive (looping.replaced run replaced)
    · exact alive cancelled
  cases channels_resting rest reach with
  | idle slot resolved => exact ⟨loops, slot, resolved⟩
  | busy running => exact absurd cancelled (current_of_running rest reach running).2.1

end SessionBoard.LiveStore
