import SessionBoard.Proofs.Store.Attempts

namespace SessionBoard.LiveStore

open SingleFlight (Chronicle)

/-- An attempt asks the server for a channel. -/
def open? (moment : LiveStore × Move) : Option Nat :=
  match attemptMove? moment with
  | some (.report id (.opening _)) => some id
  | _ => none

/-- The attempts that have asked for a channel, in that order. -/
def opens (past : History) : List Nat :=
  past.filterMap open?

variable {store store' : LiveStore} {past : History} {move : Move} {id : Nat}

theorem opens_concat (past : History) (moment : LiveStore × Move) :
    opens (past ++ [moment]) = opens past ++ (open? moment).toList :=
  filterMap_next ..

/-- An attempt that asks for a channel has done nothing before. -/
theorem bound_of_open (taken : store.move? move = some store') (asks : open? (store, move) = some id) :
    ∃ run, store.channels.stage? id = some (.running (.bound run)) := by
  obtain ⟨attempting, _⟩ := attempting_of_move taken
  unfold open? at asks
  split at asks
  · rename_i run said
    cases asks
    rw [said] at attempting
    generalize greeted? (store, move) = hears, signal? (store, move) = tells at attempting
    cases attempting with
    | goesOn atId _ _ asksOnce =>
      rw [(asksOnce run).2 rfl] at atId
      exact ⟨run, atId⟩
  · cases asks

theorem opens_of_take {server server' : Server} {channel : Nat} {item : Option ChannelItem}
    (found : server.take? channel = some (item, server')) : server'.opens = server.opens := by
  unfold Server.take? at found
  split at found
  · cases found
  · split at found
    · cases found
      rfl
    · split at found <;> cases found
      rfl

theorem opens_of_release (server : Server) (channel : Option Nat) :
    (channel.elim server server.release).opens = server.opens := by
  cases channel <;> rfl

theorem ChannelStep.opens_eq (step : ChannelStep store id store') {attemptMove : AttemptMove}
    (between : store.channels.moveBetween? store'.channels id = some attemptMove) :
    store'.server.opens = store.server.opens +
      match attemptMove with
      | .report _ (.opening _) => 1
      | _ => 0 := by
  cases step with
  | begins begun =>
    cases (SingleFlight.moveBetween?_begin begun).symm.trans between
    rfl
  | abandons _ _ _ ended | fails _ ended =>
    cases (SingleFlight.moveBetween?_finish ended).symm.trans between
    exact opens_of_release _ _
  | @answered _ answer _ _ _ _ reported =>
    cases (SingleFlight.moveBetween?_report reported).symm.trans between
    cases answer <;> rfl
  | @takes _ _ _ item _ _ _ found reported =>
    cases (SingleFlight.moveBetween?_report reported).symm.trans between
    rw [opens_of_take found]
    rcases item with _ | _ | _ <;> rfl
  | asks _ reported | confirms _ reported | updates _ reported | ignores _ _ reported =>
    cases (SingleFlight.moveBetween?_report reported).symm.trans between
    rfl
  | unwinds run =>
    rcases SingleFlight.moveBetween?_unwind run with ⟨same, _⟩ | ⟨same, _⟩ <;>
      cases same.symm.trans between <;> rfl

/-- The server counts exactly these calls. -/
theorem opens_of_move (taken : store.move? move = some store') :
    store'.server.opens = store.server.opens + (open? (store, move)).toList.length := by
  cases move with
  | receive subscriber =>
    obtain ⟨_, _, rfl⟩ := Option.map_eq_some_iff.mp taken
    rfl
  | step preference task =>
    cases task with
    | refresh id =>
      obtain ⟨_, _, _, rfl, same⟩ := (stepRefresh_cases taken).frame
      exact same
    | channel id =>
      have step := stepChannel_cases taken
      obtain ⟨attemptMove, between, _⟩ := step.attempting preference
      have said : attemptMove? (store, .step preference (.channel id)) = some attemptMove := by
        rw [attemptMove?, show store.step preference (.channel id) = some store' from taken,
          Option.bind_some, between]
      rw [step.opens_eq between, open?, said]
      cases attemptMove with
      | report id progress => cases progress <;> rfl
      | trigger | begin | finish | settle | resolve => rfl
    | syncLoop run =>
      have quiet : open? (store, .step preference (.syncLoop run)) = none := by
        by_cases requested : store.loopStage? run = some .requested <;>
          simp [open?, attemptMove?, requested]
      rw [quiet]
      cases stepLoop_cases taken <;> rfl
  | _ =>
    cases taken
    rfl

/-- The calls of a history, against the attempts and the server. An attempt calls once at the most, as the first
thing it does. -/
structure Called (past : History) (store : LiveStore) : Prop where
  counted : store.server.opens = (opens past).length
  once : (opens past).Nodup
  begun : ∀ {id}, id ∈ opens past → id < (attemptHistory past).begun.length
  notYet : ∀ {id run}, store.channels.stage? id = some (.running (.bound run)) → id ∉ opens past

namespace Called

variable (called : Called past store) (chronicle : Chronicle (attemptHistory past) store.channels)

include called chronicle

theorem notYet_next (taken : store.move? move = some store') {run : Nat}
    (bound : store'.channels.stage? id = some (.running (.bound run))) :
    id ∉ opens (past ++ [(store, move)]) := by
  obtain ⟨attempting, follows⟩ := attempting_of_move taken
  rw [opens_concat, List.mem_append, Option.mem_toList, not_or, open?]
  generalize attemptMove? (store, move) = act at attempting follows ⊢
  cases act with
  | none =>
    rw [← Option.some.inj follows] at bound
    exact ⟨called.notYet bound, by simp⟩
  | some attemptMove =>
    rcases SingleFlight.running_of_move follows bound with rfl | rfl | ⟨before, notReported⟩
    · refine ⟨fun member => ?_, by simp⟩
      exact Nat.lt_irrefl _ (chronicle.eq_of_begin follows ▸ called.begun member)
    · generalize greeted? (store, move) = hears, signal? (store, move) = tells at attempting
      cases attempting with
      | goesOn _ _ _ asksOnce => exact absurd rfl (asksOnce run).1
    · refine ⟨called.notYet before, fun asks => ?_⟩
      split at asks
      · rename_i same
        cases asks
        exact notReported _ (Option.some.inj same)
      · cases asks

theorem next (taken : store.move? move = some store') : Called (past ++ [(store, move)]) store' where
  counted := by
    rw [opens_of_move taken, called.counted, opens_concat, List.length_append]
  once := by
    rw [opens_concat]
    refine List.nodup_append.mpr ⟨called.once, by cases open? (store, move) <;> simp, ?_⟩
    rintro other earlier _ now rfl
    obtain ⟨run, bound⟩ := bound_of_open taken (Option.mem_toList.mp now)
    exact called.notYet bound earlier
  begun := by
    intro id member
    rw [opens_concat, List.mem_append, Option.mem_toList] at member
    have already : id < (attemptHistory past).begun.length := by
      rcases member with earlier | now
      · exact called.begun earlier
      · obtain ⟨run, bound⟩ := bound_of_open taken now
        exact (chronicle.begun_first.iff bound).mp rfl
    rw [attemptHistory_concat, SingleFlight.History.begun, List.filterMap_append, List.length_append]
    exact Nat.lt_add_right _ already
  notYet := called.notYet_next chronicle taken

end Called

theorem called_of_reach {options : SyncOptions} (reach : Reach move? { options := options } past store) :
    Called past store := by
  induction reach with
  | start =>
    refine ⟨rfl, by simp [opens], by simp [opens], ?_⟩
    simp [SingleFlight.stage?]
  | next reach taken ih =>
    exact ih.next (chronicle_of_reach reach) taken

end SessionBoard.LiveStore
