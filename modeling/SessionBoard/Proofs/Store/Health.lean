import SessionBoard.Proofs.Store.Connectivity
import SessionBoard.Proofs.Store.Custody
import SessionBoard.Proofs.Store.Rest

namespace SessionBoard.LiveStore

/-- A channel that has brought an `init` event is open: an attempt looks after it, the client has not let
go of it, and the server has not ended it. -/
def Live (past : History) (store : LiveStore) : Prop :=
  ∃ id run channel, store.channels.stage? id = some (.running (.open run channel true)) ∧
    id ∈ greeted past ∧ store.server.channels[channel]? = some ⟨[], false, false⟩

/-- The last word on the health of a channel is that of an attempt which has told that its channel is live
and has ended since because its run was cancelled. -/
def LeftLive (past : History) (id : Nat) : Prop :=
  (id, some (.ok ())) ∈ (attemptHistory past).ended ∧ said past id = [.active] ∧
    ∀ later, id < later → said past later = []

variable {store store' : LiveStore} {past : History} {id : Nat}

/-- The last item of many lists in a row stands at the end of the last one that is not empty. -/
theorem getLast?_flatMap_range {τ : Type} {lists : Nat → List τ} {item : τ} {count : Nat} :
    ((List.range count).flatMap lists).getLast? = some item ↔
      ∃ index, index < count ∧ (lists index).getLast? = some item ∧
        ∀ later, index < later → later < count → lists later = [] := by
  induction count with
  | zero => simp
  | succ count ih =>
    rw [List.range_succ, List.flatMap_append, List.flatMap_singleton, List.getLast?_append]
    cases last : (lists count).getLast? with
    | some item' =>
      rw [Option.some_or, Option.some.injEq]
      constructor
      · rintro rfl
        exact ⟨count, Nat.lt_succ_self _, last, by omega⟩
      · rintro ⟨index, within, atEnd, empty⟩
        rcases Nat.lt_or_eq_of_le (Nat.le_of_lt_succ within) with earlier | rfl
        · rw [empty count earlier (Nat.lt_succ_self _)] at last
          cases last
        · exact Option.some.inj (last.symm.trans atEnd)
    | none =>
      have nothing := List.getLast?_eq_none_iff.mp last
      rw [Option.none_or, ih]
      constructor
      · rintro ⟨index, within, atEnd, empty⟩
        refine ⟨index, Nat.lt_succ_of_lt within, atEnd, fun later after before => ?_⟩
        rcases Nat.lt_or_eq_of_le (Nat.le_of_lt_succ before) with earlier | rfl
        · exact empty later after earlier
        · exact nothing
      · rintro ⟨index, within, atEnd, empty⟩
        rcases Nat.lt_or_eq_of_le (Nat.le_of_lt_succ within) with earlier | rfl
        · exact ⟨index, earlier, atEnd, fun later after before => empty later after (Nat.lt_succ_of_lt before)⟩
        · cases atEnd.symm.trans last

/-- An attempt whose last word is that its channel is live has said nothing else. -/
theorem Heard.said_active (heard : Heard past store) (last : (said past id).getLast? = some .active) :
    said past id = [.active] ∧ id ∈ greeted past ∧ id ∉ failed past := by
  have words := heard.said_eq id
  rw [words] at last
  by_cases hailed : id ∈ greeted past <;> by_cases failure : id ∈ failed past <;> simp_all

/-- Only a step of its own ends an attempt. -/
theorem step_of_finish {move : Move} {outcome : Option (Except SourceError Unit)}
    (finish : attemptMove? (store, move) = some (.finish id outcome)) :
    ∃ preference, move = .step preference (.channel id) := by
  unfold attemptMove? at finish
  split at finish
  · rename_i preference other same
    cases same
    obtain ⟨store', _, between⟩ := Option.bind_eq_some_iff.mp finish
    unfold SingleFlight.moveBetween? at between
    split at between <;> cases between
    exact ⟨preference, rfl⟩
  · split at finish <;> cases finish
  · cases finish

section

variable {options : SyncOptions} (reach : Reach move? { options := options } past store)

include reach

/-- What is shown is the last word of the last attempt that has said anything. -/
theorem connectivity_active_iff :
    store.board.connectivity = .active ↔
      ∃ id, said past id = [.active] ∧ ∀ later, id < later → said past later = [] := by
  have heard := heard_of_reach reach
  have chronicle := chronicle_of_reach reach
  have last : store.board.connectivity = .active ↔ (announced past).getLast? = some .active := by
    rw [connectivity_eq reach]
    cases (announced past).getLast? <;> simp
  rw [last, heard.announced_eq, chronicle.begun_eq, getLast?_flatMap_range]
  constructor
  · rintro ⟨id, _, atEnd, silent⟩
    refine ⟨id, (heard.said_active atEnd).1, fun later after => ?_⟩
    by_cases begun : later < (attemptHistory past).begun.length
    · exact silent later after begun
    · exact heard.said_eq_nil chronicle (Nat.not_lt.mp begun)
  · rintro ⟨id, words, silent⟩
    refine ⟨id, ?_, by rw [words]; rfl, fun later after _ => silent later after⟩
    rw [← Nat.not_le]
    intro notBegun
    cases words.symm.trans (heard.said_eq_nil chronicle notBegun)

/-- An attempt that is under way and has not failed has the last word. -/
theorem said_of_live (live : Live past store) :
    ∃ id, said past id = [.active] ∧ ∀ later, id < later → said past later = [] := by
  have heard := heard_of_reach reach
  have chronicle := chronicle_of_reach reach
  obtain ⟨id, run, channel, atId, hailed, _⟩ := live
  have unfailed := not_failed_of_running chronicle atId
  have begun := begun_of_running chronicle atId
  refine ⟨id, ?_, fun later after => heard.said_eq_nil chronicle ?_⟩
  · rw [heard.said_eq, if_pos hailed, if_neg unfailed]
    rfl
  · rw [begun, List.length_append, List.length_range]
    exact after

variable (rest : store.runnable = [])

include rest

/-- An attempt that waits has an open channel if it has told so. -/
theorem live_of_running {progress : ChannelProgress}
    (atId : store.channels.stage? id = some (.running progress)) (hailed : id ∈ greeted past) :
    Live past store := by
  have heard := heard_of_reach reach
  have custody := custody_of_reach reach
  rcases waiting_of_running rest atId with ⟨run, rfl, _⟩ | ⟨run, channel, confirmed, rfl, _, quiet⟩
  · cases (heard.confirmed atId rfl).mpr hailed
  · cases (heard.confirmed atId rfl).mpr hailed
    obtain ⟨unreleased, _⟩ := custody.held id channel (held?_eq atId)
    refine ⟨id, run, channel, atId, hailed, ?_⟩
    obtain ⟨⟨arrived, ended, released⟩, atChannel, kept⟩ :=
      (Option.any_eq_true _ _).mp unreleased
    cases released with
    | true => cases kept
    | false =>
      -- A channel on which something has arrived, or which has ended, would not be quiet.
      cases arrived <;> cases ended <;> simp_all [Server.take?]

/-- Whoever has told that its channel is live is under way or was cancelled. -/
theorem live_or_left (hailed : said past id = [.active])
    (silent : ∀ later, id < later → said past later = []) : Live past store ∨ ∃ id, LeftLive past id := by
  have heard := heard_of_reach reach
  have chronicle := chronicle_of_reach reach
  obtain ⟨_, isGreeted, unfailed⟩ := heard.said_active (by rw [hailed]; rfl : (said past id).getLast? = some .active)
  have begun := heard.greeted_begun isGreeted
  obtain ⟨stage, atId⟩ : ∃ stage, store.channels.stage? id = some stage :=
    ⟨_, List.getElem?_eq_getElem (Nat.lt_of_lt_of_le begun chronicle.begun_first.le)⟩
  have hasBegun := (chronicle.begun_first.iff atId).mpr begun
  have left : ∀ outcome, stage.ending? = some outcome → LeftLive past id := by
    intro outcome ending
    have ended := chronicle.mem_ended atId ending
    rcases ended_how reach ended with ⟨error, rfl, _⟩ | ⟨rfl, _⟩
    · exact absurd (mem_failed.mpr ⟨error, ended⟩) unfailed
    · exact ⟨ended, hailed, silent⟩
  cases stage with
  | launched after => cases hasBegun
  | running progress => exact .inl (live_of_running reach rest atId isGreeted)
  | returned | settled | resolved => exact .inr ⟨id, left _ rfl⟩

end

/-- How far the shown health of a store at rest can be trusted. -/
structure HealthShown (past : History) (store : LiveStore) : Prop where
  /-- What is shown is what was last told to the subscribers. -/
  told : store.board.connectivity = (announced past).getLast?.getD .unknown
  /-- A channel that is shown as live is open, or the attempt that had it was cancelled. -/
  active_iff : store.board.connectivity = .active ↔ Live past store ∨ ∃ id, LeftLive past id
  not_both : Live past store → ∀ id, ¬LeftLive past id
  /-- An attempt leaves without a word by the step in which it finds that its run was cancelled. -/
  left_how : ∀ id, LeftLive past id → ∃ found preference progress run channel,
    (found, .step preference (.channel id)) ∈ past ∧
      found.channels.stage? id = some (.running progress) ∧ progress.Abandonable run channel ∧
      found.isCancelled run
  /-- Where one run is all there is and nobody cancels it, a channel is shown as live only while it is. -/
  uncancelled : starts past ≤ 1 → shutDown past = [] → (store.board.connectivity = .active ↔ Live past store)

/-- Whatever has happened to a store, once all its tasks wait it shows the last that it was told of its push channel. An
attempt that fails takes back what it has told, so a channel that is shown as live is open. An attempt whose run was
cancelled leaves without a word, and what it has told goes on to be shown until another attempt tells something. -/
theorem health_shown {options : SyncOptions} (reach : Reach move? { options := options } past store)
    (rest : store.runnable = []) : HealthShown past store := by
  have active : store.board.connectivity = .active ↔ Live past store ∨ ∃ id, LeftLive past id := by
    rw [connectivity_active_iff reach]
    constructor
    · rintro ⟨id, hailed, silent⟩
      exact live_or_left reach rest hailed silent
    · rintro (live | ⟨id, _, hailed, silent⟩)
      · exact said_of_live reach live
      · exact ⟨id, hailed, silent⟩
  refine ⟨connectivity_eq reach, active, ?_, ?_, fun once spared => ?_⟩
  · rintro ⟨id, run, channel, atId, isGreeted, _⟩ other ⟨ended, _, silent⟩
    have turn := (chronicle_of_reach reach).eq_of_running atId
    have earlier := (chronicle_of_reach reach).lt_of_mem_ended ended
    have words := (heard_of_reach reach).said_eq id
    rw [silent id (by omega), if_pos isGreeted] at words
    cases words
  · rintro id ⟨ended, _⟩
    rcases ended_how reach ended with ⟨_, wrong, _⟩ |
      ⟨_, _, found, move, progress, run, channel, passed, finish, atId, bound, cancelled⟩
    · cases wrong
    · obtain ⟨preference, rfl⟩ := step_of_finish finish
      exact ⟨found, preference, progress, run, channel, passed, atId, bound, cancelled⟩
  · rw [active]
    refine or_iff_left ?_
    rintro ⟨id, ended, _⟩
    exact not_failed_of_ok reach ended (failed_of_ended reach once spared ended)

/-- A channel that has brought an `init` event and on which the store waits for more. -/
theorem health_shown_live :
    ∃ past store, Reach move? { options := {} } past store ∧ store.runnable = [] ∧
      store.board.connectivity = .active ∧ Live past store ∧ HealthShown past store := by
  have reach : Reach move? { options := {} } _ _ :=
    .of_trail [.start, .step .work (.syncLoop 1), .step .work (.syncLoop 1), .step .work (.refresh 0),
      .step .work (.channel 0), .step .work (.channel 0), .grantChannel, .step .work (.channel 0),
      .send 0 [.ok .init], .step .work (.channel 0), .step .work (.channel 0)] rfl
  exact ⟨_, _, reach, rfl, rfl, ⟨0, 1, 0, rfl, List.mem_singleton.mpr rfl, rfl⟩, health_shown reach rfl⟩

/-- A cancelled attempt has nothing to tell: a store that is shut down while its channel is live lets the channel go, and
what it shows is what it was told last. -/
theorem active_after_shutdown :
    ∃ past store, Reach move? { options := {} } past store ∧ store.runnable = [] ∧
      (announced past).getLast? = some .active ∧ store.board.connectivity = .active ∧
      (∀ push ∈ store.server.channels, push.released) ∧ ¬Live past store ∧ LeftLive past 0 := by
  have reach : Reach move? { options := {} } _ _ :=
    .of_trail [.start, .step .work (.syncLoop 1), .step .work (.syncLoop 1), .step .work (.refresh 0),
      .step .work (.channel 0), .step .work (.channel 0), .grantChannel, .step .work (.channel 0),
      .send 0 [.ok .init], .step .work (.channel 0), .step .work (.channel 0), .cancel 1,
      .step .work (.channel 0), .step .work (.channel 0), .step .work (.channel 0),
      .step .cancellation (.syncLoop 1)] rfl
  refine ⟨_, _, reach, rfl, rfl, rfl, by decide, ?_, List.mem_singleton.mpr rfl, rfl, fun later after => ?_⟩
  · rintro ⟨_ | id, run, channel, atId, _⟩ <;> cases atId
  · show ([(0, Connectivity.active)].filterMap fun signal => if signal.1 = later then some signal.2 else none) = []
    simp [Nat.ne_of_lt after]

end SessionBoard.LiveStore
