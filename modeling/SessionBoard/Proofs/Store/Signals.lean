import SessionBoard.Proofs.Store.Publication
import SessionBoard.Proofs.Store.Runs

namespace SessionBoard.LiveStore

open SingleFlight (Chronicle)

/-- The attempts that have acted upon an `init` event, once for each of these. -/
def greeted (past : History) : List Nat :=
  past.filterMap greeted?

/-- What the attempts have told of their channels, in that order. -/
def signals (past : History) : List (Nat × Connectivity) :=
  past.filterMap signal?

def said (past : History) (id : Nat) : List Connectivity :=
  (signals past).filterMap fun signal => if signal.1 = id then some signal.2 else none

/-- What was dispatched of the health of the channel, by whomever. -/
def announced (past : History) : List Connectivity :=
  past.filterMap fun moment => (dispatch? moment).bind StoreEvent.connectivity?

def failure? : Nat × Option (Except SourceError Unit) → Option Nat
  | (id, some (.error _)) => some id
  | _ => none

/-- The attempts that have ended with an error, in that order. -/
def failed (past : History) : List Nat :=
  (attemptHistory past).ended.filterMap failure?

variable {store store' : LiveStore} {past : History} {moment : LiveStore × Move} {id : Nat}

theorem greeted_concat (past : History) (moment : LiveStore × Move) :
    greeted (past ++ [moment]) = greeted past ++ (greeted? moment).toList :=
  filterMap_next ..

theorem said_concat (past : History) (moment : LiveStore × Move) (id : Nat) :
    said (past ++ [moment]) id = said past id ++
      ((signal? moment).bind fun signal => if signal.1 = id then some signal.2 else none).toList := by
  rw [said, signals, filterMap_next, List.filterMap_append]
  cases signal? moment <;> rfl

theorem begun_concat (past : History) (moment : LiveStore × Move) :
    (attemptHistory (past ++ [moment])).begun = (attemptHistory past).begun ++
      ((attemptMove? moment).bind fun move => SingleFlight.History.begun? (moment.1.channels, move)).toList :=
  attempts_concat ..

theorem ended_concat (past : History) (moment : LiveStore × Move) :
    (attemptHistory (past ++ [moment])).ended = (attemptHistory past).ended ++
      ((attemptMove? moment).bind fun move => SingleFlight.History.ended? (moment.1.channels, move)).toList :=
  attempts_concat ..

theorem failed_concat (past : History) (moment : LiveStore × Move) :
    failed (past ++ [moment]) = failed past ++ (((attemptMove? moment).bind fun move =>
      SingleFlight.History.ended? (moment.1.channels, move)).bind failure?).toList := by
  rw [failed, ended_concat, List.filterMap_append]
  congr 1
  cases (attemptMove? moment).bind fun move => SingleFlight.History.ended? (moment.1.channels, move) <;> rfl

/-- The health of the channel is dispatched by the attempts alone. -/
theorem connectivity_of_moment (moment : LiveStore × Move) :
    (dispatch? moment).bind StoreEvent.connectivity? = (signal? moment).map Prod.snd := by
  obtain ⟨store, move⟩ := moment
  cases move with
  | step preference task =>
    cases task with
    | refresh id =>
      simp only [dispatch?, stepDispatch?, signal?]
      split
      · rename_i answer _
        cases store.options.onFetchError.published? answer <;> rfl
      · rfl
    | channel id =>
      simp only [dispatch?, signal?]
      cases (store.stepDispatch? (.channel id)).bind StoreEvent.connectivity? <;> rfl
    | syncLoop run => rfl
  | _ => rfl

theorem announced_concat (past : History) (moment : LiveStore × Move) :
    announced (past ++ [moment]) = announced past ++ ((signal? moment).map Prod.snd).toList := by
  rw [← connectivity_of_moment]
  exact filterMap_next ..

theorem mem_failed :
    id ∈ failed past ↔ ∃ error, (id, some (.error error)) ∈ (attemptHistory past).ended := by
  rw [failed, List.mem_filterMap]
  constructor
  · rintro ⟨⟨other, _ | _ | error⟩, member, found⟩ <;> cases found
    exact ⟨_, member⟩
  · rintro ⟨error, member⟩
    exact ⟨_, member, rfl⟩

theorem lt_of_failed (chronicle : Chronicle (attemptHistory past) store.channels)
    (failure : id ∈ failed past) : id < (attemptHistory past).ended.length := by
  obtain ⟨error, ended⟩ := mem_failed.mp failure
  exact chronicle.lt_of_mem_ended ended

theorem not_failed_of_running {progress : ChannelProgress}
    (chronicle : Chronicle (attemptHistory past) store.channels)
    (running : store.channels.stage? id = some (.running progress)) : id ∉ failed past := by
  intro failure
  have turn := chronicle.eq_of_running running
  have within := lt_of_failed chronicle failure
  omega

/-- A move by which an attempt that tells nothing brings up nothing new either. -/
theorem Attempting.of_silent {act : Option AttemptMove} {hears : Option Nat}
    (attempting : Attempting store act hears none) :
    (∀ id, hears = some id → ∃ run channel,
        store.channels.stage? id = some (.running (.received run channel true .init))) ∧
      (act.bind fun move => SingleFlight.History.ended? (store.channels, move)).bind failure? = none := by
  cases attempting with
  | repeated atId =>
    refine ⟨?_, rfl⟩
    rintro _ ⟨⟩
    exact ⟨_, _, atId⟩
  | still | launched | begun | goesOn | abandoned | settled | resolved => exact ⟨by simp, rfl⟩

/-- What the attempts have heard and told, against how far the one under way has come. Attempts tell nothing
before they begin and nothing after they end, so what was dispatched is what they told, one attempt after the
other. -/
structure Heard (past : History) (store : LiveStore) : Prop where
  confirmed : ∀ {id progress flag}, store.channels.stage? id = some (.running progress) →
    progress.confirmed? = some flag → (flag = true ↔ id ∈ greeted past)
  greeted_begun : ∀ {id}, id ∈ greeted past → id < (attemptHistory past).begun.length
  said_eq : ∀ id, said past id =
    (if id ∈ greeted past then [.active] else []) ++ (if id ∈ failed past then [.inactive] else [])
  announced_eq : announced past = (attemptHistory past).begun.flatMap (said past)

namespace Heard

theorem said_of_failed (heard : Heard past store) (failure : id ∈ failed past) :
    said past id = [.inactive] ∨ said past id = [.active, .inactive] := by
  rw [heard.said_eq, if_pos failure]
  split
  · exact .inr rfl
  · exact .inl rfl

theorem said_of_not_failed (heard : Heard past store) (noFailure : id ∉ failed past) :
    said past id = [] ∨ said past id = [.active] := by
  rw [heard.said_eq, if_neg noFailure]
  split
  · exact .inr rfl
  · exact .inl rfl

variable {move : Move} (heard : Heard past store) (chronicle : Chronicle (attemptHistory past) store.channels)

include heard chronicle

/-- An attempt that has not begun has told nothing. -/
theorem said_eq_nil (notBegun : (attemptHistory past).begun.length ≤ id) : said past id = [] := by
  have notGreeted : id ∉ greeted past := by
    intro member
    have begun := heard.greeted_begun member
    omega
  have notFailed : id ∉ failed past := by
    intro failure
    have ended := lt_of_failed chronicle failure
    have begun := chronicle.ended_le_begun
    omega
  rw [heard.said_eq, if_neg notGreeted, if_neg notFailed]
  rfl

theorem announced_of_silent (silent : signal? moment = none)
    (begun : (attemptHistory (past ++ [moment])).begun = (attemptHistory past).begun ∨
      (attemptHistory (past ++ [moment])).begun =
        (attemptHistory past).begun ++ [(attemptHistory past).begun.length]) :
    announced (past ++ [moment]) =
      (attemptHistory (past ++ [moment])).begun.flatMap (said (past ++ [moment])) := by
  have same : said (past ++ [moment]) = said past := by
    funext id
    rw [said_concat, silent]
    exact List.append_nil _
  rw [announced_concat, silent, same, heard.announced_eq]
  rcases begun with still | next
  · rw [still]
    exact List.append_nil _
  · -- The attempt that begins has told nothing yet.
    rw [next, List.flatMap_append, List.flatMap_singleton, heard.said_eq_nil chronicle (Nat.le_refl _)]
    rfl

theorem announced_of_signal {progress : ChannelProgress} {state : Connectivity}
    (told : signal? moment = some (id, state)) (running : store.channels.stage? id = some (.running progress))
    (begun : (attemptHistory (past ++ [moment])).begun = (attemptHistory past).begun) :
    announced (past ++ [moment]) =
      (attemptHistory (past ++ [moment])).begun.flatMap (said (past ++ [moment])) := by
  -- It is the attempt under way that tells something, which is the last one to have begun.
  have others : (List.range id).flatMap (said (past ++ [moment])) = (List.range id).flatMap (said past) := by
    refine List.flatMap_congr fun other earlier => ?_
    have different : id ≠ other := Nat.ne_of_gt (List.mem_range.mp earlier)
    rw [said_concat, told]
    simp [different]
  rw [announced_concat, told, heard.announced_eq, begun, begun_of_running chronicle running,
    List.flatMap_append, List.flatMap_append, others, List.flatMap_singleton, List.flatMap_singleton,
    said_concat, told]
  simp

theorem confirmed_next (taken : store.move? move = some store') {progress : ChannelProgress} {flag : Bool}
    (running : store'.channels.stage? id = some (.running progress))
    (known : progress.confirmed? = some flag) : flag = true ↔ id ∈ greeted (past ++ [(store, move)]) := by
  obtain ⟨attempting, follows⟩ := attempting_of_move taken
  rw [greeted_concat]
  generalize attemptMove? (store, move) = act at attempting follows
  generalize greeted? (store, move) = hears, signal? (store, move) = tells at attempting ⊢
  cases act with
  | none =>
    cases attempting
    rw [← Option.some.inj follows] at running
    simpa using heard.confirmed running known
  | some attemptMove =>
    rcases SingleFlight.running_of_move follows running with rfl | rfl | ⟨before, notReported⟩
    · cases attempting
      cases known
      have fresh : id ∉ greeted past := fun member =>
        Nat.lt_irrefl _ (chronicle.eq_of_begin follows ▸ heard.greeted_begun member)
      simpa using fresh
    · cases attempting with
      | goesOn atId kept => simpa using heard.confirmed atId (kept flag known)
      | repeated | confirmed =>
        cases known
        simp
    · cases attempting with
      | repeated atId | confirmed atId =>
        -- Only one attempt is under way, so it would be this one that acts upon the event.
        cases (chronicle.eq_of_running before).trans (chronicle.eq_of_running atId).symm
        exact absurd rfl (notReported _)
      | launched | begun | goesOn | abandoned | failed | settled | resolved =>
        simpa using heard.confirmed before known

theorem greeted_next (taken : store.move? move = some store') (member : id ∈ greeted (past ++ [(store, move)])) :
    id < (attemptHistory (past ++ [(store, move)])).begun.length := by
  obtain ⟨attempting, _⟩ := attempting_of_move taken
  rw [begun_concat, List.length_append]
  rw [greeted_concat, List.mem_append, Option.mem_toList] at member
  refine Nat.lt_add_right _ ?_
  rcases member with earlier | now
  · exact heard.greeted_begun earlier
  · rw [Option.mem_def.mp now] at attempting
    generalize attemptMove? (store, move) = act, signal? (store, move) = tells at attempting
    cases attempting with
    | repeated atId | confirmed atId => exact (chronicle.begun_first.iff atId).mp rfl

theorem said_next (taken : store.move? move = some store') (id : Nat) :
    said (past ++ [(store, move)]) id =
      (if id ∈ greeted (past ++ [(store, move)]) then [.active] else []) ++
        (if id ∈ failed (past ++ [(store, move)]) then [.inactive] else []) := by
  obtain ⟨attempting, _⟩ := attempting_of_move taken
  rw [said_concat, greeted_concat, failed_concat, heard.said_eq]
  generalize attemptMove? (store, move) = act, greeted? (store, move) = hears,
    signal? (store, move) = tells at attempting ⊢
  cases tells with
  | none =>
    obtain ⟨repeats, noFailure⟩ := attempting.of_silent
    have noGreeting : id ∈ greeted past ++ hears.toList ↔ id ∈ greeted past := by
      rw [List.mem_append, Option.mem_toList, or_iff_left_iff_imp]
      intro now
      obtain ⟨run, channel, atId⟩ := repeats id now
      exact (heard.confirmed atId rfl).mp rfl
    simp only [noGreeting, noFailure, Option.bind_none, Option.toList_none, List.append_nil]
  | some signal =>
    cases attempting with
    | @confirmed other run channel atId =>
      have first : other ∉ greeted past := by simp [← heard.confirmed atId rfl]
      have unfailed := not_failed_of_running chronicle atId
      by_cases own : other = id
      · subst own
        simp [first, unfailed]
      · simp [own, Ne.symm own]
    | @failed other channel error atId =>
      have unfailed := not_failed_of_running chronicle atId
      by_cases own : other = id
      · subst own
        simp [unfailed, failure?]
      · simp [own, Ne.symm own, failure?]

theorem announced_next (taken : store.move? move = some store') :
    announced (past ++ [(store, move)]) =
      (attemptHistory (past ++ [(store, move)])).begun.flatMap (said (past ++ [(store, move)])) := by
  obtain ⟨attempting, follows⟩ := attempting_of_move taken
  have begun := begun_concat past (store, move)
  cases told : signal? (store, move) with
  | none =>
    refine heard.announced_of_silent chronicle told ?_
    rw [begun]
    rw [told] at attempting
    generalize attemptMove? (store, move) = act, greeted? (store, move) = hears at attempting follows
    cases attempting with
    | begun =>
      rw [← chronicle.eq_of_begin follows]
      exact .inr rfl
    | still | launched | goesOn | repeated | abandoned | settled | resolved =>
      exact .inl (List.append_nil _)
  | some signal =>
    rw [told] at attempting
    generalize attemptMove? (store, move) = act, greeted? (store, move) = hears at attempting begun
    cases attempting with
    | confirmed atId | failed atId =>
      exact heard.announced_of_signal chronicle told atId (begun.trans (List.append_nil _))

theorem next (taken : store.move? move = some store') : Heard (past ++ [(store, move)]) store' where
  confirmed := heard.confirmed_next chronicle taken
  greeted_begun := heard.greeted_next chronicle taken
  said_eq := heard.said_next chronicle taken
  announced_eq := heard.announced_next chronicle taken

end Heard

theorem heard_of_reach {options : SyncOptions} (reach : Reach move? { options := options } past store) :
    Heard past store := by
  induction reach with
  | start =>
    refine ⟨?_, by simp [greeted], fun _ => rfl, rfl⟩
    simp [SingleFlight.stage?]
  | next reach taken ih => exact ih.next (chronicle_of_reach reach) taken

end SessionBoard.LiveStore
