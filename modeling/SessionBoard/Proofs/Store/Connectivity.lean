import Mathlib.Data.List.Chain
import SessionBoard.Proofs.Store.Signals

namespace SessionBoard.LiveStore

variable {store store' : LiveStore} {past : History} {id : Nat}

/-- What the history of a store and the store itself have in common as to the health of the channel. -/
structure ConnectivityProtocol (past : History) (store : LiveStore) : Prop where
  /-- A step of a task dispatched to the board what the history says, and nothing else. -/
  dispatched : ∀ before found preference task after,
    past = before ++ (found, .step preference task) :: after →
      ∃ left, found.step preference task = some left ∧
        left.board = (dispatch? (found, .step preference task)).elim found.board found.board.dispatch
  shown : store.board.connectivity = (announced past).getLast?.getD .unknown
  /-- Attempts begin in the order in which they were asked for, and end in that order. -/
  begun_in_turn : (attemptHistory past).begun = List.range (attemptHistory past).begun.length
  ended_in_turn : (attemptHistory past).ended.map Prod.fst <+: (attemptHistory past).begun
  one_at_a_time : (attemptHistory past).begun.length ≤ (attemptHistory past).ended.length + 1
  exclusive : ∀ first second progress progress', store.channels.stage? first = some (.running progress) →
    store.channels.stage? second = some (.running progress') → first = second
  /-- Nobody but an attempt under way dispatches anything of the channel. -/
  inside : ∀ found move, (found, move) ∈ past → ∀ state,
    (dispatch? (found, move)).bind StoreEvent.connectivity? = some state →
      ∃ preference id progress, move = .step preference (.channel id) ∧
        found.channels.stage? id = some (.running progress)
  /-- An attempt tells that its channel is live at the first `init` event, and at no other event. -/
  active_iff : ∀ before moment after, past = before ++ moment :: after →
    ((dispatch? moment).bind StoreEvent.connectivity? = some .active ↔
      ∃ id, greeted? moment = some id ∧ id ∉ greeted before)
  /-- It tells that the channel is lost in the very step by which it ends with an error. -/
  inactive_iff : ∀ moment ∈ past, (dispatch? moment).bind StoreEvent.connectivity? = some .inactive ↔
    ∃ id error, attemptMove? moment = some (.finish id (some (.error error)))
  said_eq : ∀ id, said past id =
    (if id ∈ greeted past then [.active] else []) ++ (if id ∈ failed past then [.inactive] else [])
  /-- An attempt ends with an error, and its last word is that the channel is lost, or it ends because its
  run was cancelled, and leaves without a word. -/
  ended : ∀ id outcome, (id, outcome) ∈ (attemptHistory past).ended →
    (∃ error, outcome = some (.error error) ∧ (said past id = [.inactive] ∨ said past id = [.active, .inactive])) ∨
      outcome = some (.ok ()) ∧ (said past id = [] ∨ said past id = [.active]) ∧
        ∃ found move progress run channel, (found, move) ∈ past ∧
          attemptMove? (found, move) = some (.finish id outcome) ∧
          found.channels.stage? id = some (.running progress) ∧ progress.Abandonable run channel ∧
          found.isCancelled run
  /-- By the time the flight of an attempt resolves the attempt has ended so. -/
  resolved : ∀ id outcome, store.channels.outcome? id = some outcome →
    (id, outcome) ∈ (attemptHistory past).ended
  announced_eq : announced past = (attemptHistory past).begun.flatMap (said past)
  /-- Where one run is all there is and nobody cancels it, each attempt but the last tells that the channel
  is lost, or that it is live and then lost. -/
  uncancelled : starts past ≤ 1 → shutDown past = [] →
    ∃ blocks rest, announced past = List.flatten blocks ++ rest ∧
      (∀ block ∈ blocks, block = [.inactive] ∨ block = [.active, .inactive]) ∧
      (rest = [] ∨ rest = [.active])
  never_live_twice : starts past ≤ 1 → shutDown past = [] → ¬[.active, .active] <:+: announced past

/-- Blocks that end with a loss keep two reports of a live channel apart. -/
theorem not_infix_flatten {blocks : List (List Connectivity)} {rest : List Connectivity}
    (lost : ∀ block ∈ blocks, block = [.inactive] ∨ block = [.active, .inactive])
    (last : rest = [] ∨ rest = [.active]) : ¬[.active, .active] <:+: blocks.flatten ++ rest := by
  have chain : List.IsChain (fun earlier later => ¬(earlier = .active ∧ later = .active))
      (blocks.flatten ++ rest) := by
    induction blocks with
    | nil => rcases last with rfl | rfl <;> simp
    | cons block blocks ih =>
      have onward := ih fun other member => lost other (List.mem_cons_of_mem _ member)
      rw [List.flatten_cons, List.append_assoc]
      rcases lost block List.mem_cons_self with rfl | rfl
      · exact List.isChain_cons.mpr ⟨by simp, onward⟩
      · exact List.isChain_cons_cons.mpr ⟨by simp, List.isChain_cons.mpr ⟨by simp, onward⟩⟩
  intro adjacent
  simpa using chain.infix adjacent

theorem mem_ended {outcome : Option (Except SourceError Unit)}
    (member : (id, outcome) ∈ (attemptHistory past).ended) :
    ∃ moment ∈ past, attemptMove? moment = some (.finish id outcome) := by
  obtain ⟨⟨flights, move⟩, happened, found⟩ := List.mem_filterMap.mp member
  obtain ⟨moment, passed, same⟩ := List.mem_filterMap.mp happened
  obtain ⟨move', said, same⟩ := Option.map_eq_some_iff.mp same
  cases same
  cases move <;> cases found
  exact ⟨moment, passed, said⟩

/-- An attempt that ends has failed, or its run was cancelled. -/
theorem Attempting.of_finish {hears : Option Nat} {tells : Option (Nat × Connectivity)}
    {outcome : Option (Except SourceError Unit)}
    (attempting : Attempting store (some (.finish id outcome)) hears tells) :
    (∃ error, outcome = some (.error error)) ∨ outcome = some (.ok ()) ∧
      ∃ progress run channel, store.channels.stage? id = some (.running progress) ∧
        progress.Abandonable run channel ∧ store.isCancelled run := by
  cases attempting with
  | abandoned atId bound cancelled => exact .inr ⟨rfl, _, _, _, atId, bound, cancelled⟩
  | @failed _ _ error => exact .inl ⟨error, rfl⟩

/-- What the store shows is replaced by what is dispatched of the channel, and by nothing else. -/
theorem connectivity_of_move {move : Move} (taken : store.move? move = some store') :
    store'.board.connectivity =
      ((dispatch? (store, move)).bind StoreEvent.connectivity?).getD store.board.connectivity := by
  cases move with
  | receive subscriber =>
    obtain ⟨⟨event, board⟩, received, rfl⟩ := Option.map_eq_some_iff.mp taken
    exact (shown_of_receive received).2
  | step preference task =>
    rw [board_of_step taken, dispatch?]
    rcases store.stepDispatch? task with _ | event
    · rfl
    · cases event <;> rfl
  | _ =>
    cases taken
    rfl

theorem connectivity_eq {options : SyncOptions} (reach : Reach move? { options := options } past store) :
    store.board.connectivity = (announced past).getLast?.getD .unknown := by
  induction reach with
  | start => rfl
  | @next past store move store' _ taken ih =>
    rw [connectivity_of_move taken, announced_concat, connectivity_of_moment, ih]
    cases (signal? (store, move)).map Prod.snd <;> simp

/-- An attempt that acts upon an `init` event says so exactly if it is its first one. -/
theorem Heard.active_iff (heard : Heard past store) {move : Move} (taken : store.move? move = some store') :
    (dispatch? (store, move)).bind StoreEvent.connectivity? = some .active ↔
      ∃ id, greeted? (store, move) = some id ∧ id ∉ greeted past := by
  obtain ⟨attempting, _⟩ := attempting_of_move taken
  rw [connectivity_of_moment]
  generalize attemptMove? (store, move) = act, greeted? (store, move) = hears,
    signal? (store, move) = tells at attempting ⊢
  cases attempting with
  | confirmed atId =>
    have first := heard.confirmed atId rfl
    simpa using first
  | repeated atId =>
    have again := heard.confirmed atId rfl
    simpa using again
  | still | launched | begun | goesOn | abandoned | failed | settled | resolved => simp

theorem inactive_iff_of_move {move : Move} (taken : store.move? move = some store') :
    (dispatch? (store, move)).bind StoreEvent.connectivity? = some .inactive ↔
      ∃ id error, attemptMove? (store, move) = some (.finish id (some (.error error))) := by
  obtain ⟨attempting, _⟩ := attempting_of_move taken
  rw [connectivity_of_moment]
  generalize attemptMove? (store, move) = act, greeted? (store, move) = hears,
    signal? (store, move) = tells at attempting ⊢
  cases attempting <;> simp

/-- Whatever is told of a channel is told by the attempt under way. -/
theorem exists_running_of_connectivity {move : Move} {state : Connectivity}
    (taken : store.move? move = some store')
    (told : (dispatch? (store, move)).bind StoreEvent.connectivity? = some state) :
    ∃ preference id progress, move = .step preference (.channel id) ∧
      store.channels.stage? id = some (.running progress) := by
  obtain ⟨attempting, _⟩ := attempting_of_move taken
  rw [connectivity_of_moment] at told
  obtain ⟨⟨id, _⟩, signal, _⟩ := Option.map_eq_some_iff.mp told
  have running : ∃ progress, store.channels.stage? id = some (.running progress) := by
    rw [signal] at attempting
    generalize attemptMove? (store, move) = act, greeted? (store, move) = hears at attempting
    cases attempting with
    | confirmed atId => exact ⟨_, atId⟩
    | failed atId => exact ⟨_, atId⟩
  obtain ⟨progress, atId⟩ := running
  unfold signal? at signal
  split at signal
  · rename_i same
    cases same
    obtain ⟨_, _, same⟩ := Option.map_eq_some_iff.mp signal
    cases same
    exact ⟨_, id, progress, rfl, atId⟩
  · cases signal

section

variable {options : SyncOptions} (reach : Reach move? { options := options } past store)

include reach

/-- One outcome is all an attempt comes to. -/
theorem not_failed_of_ok (ok : (id, some (.ok ())) ∈ (attemptHistory past).ended) : id ∉ failed past := by
  intro failure
  obtain ⟨error, member⟩ := mem_failed.mp failure
  have chronicle := chronicle_of_reach reach
  obtain ⟨stage, atId, ending⟩ := chronicle.outcome ok
  obtain ⟨same, atSame, ending'⟩ := chronicle.outcome member
  cases Option.some.inj (atId.symm.trans atSame)
  cases ending.symm.trans ending'

theorem ended_how {outcome : Option (Except SourceError Unit)}
    (member : (id, outcome) ∈ (attemptHistory past).ended) :
    (∃ error, outcome = some (.error error) ∧ (said past id = [.inactive] ∨ said past id = [.active, .inactive])) ∨
      outcome = some (.ok ()) ∧ (said past id = [] ∨ said past id = [.active]) ∧
        ∃ found move progress run channel, (found, move) ∈ past ∧
          attemptMove? (found, move) = some (.finish id outcome) ∧
          found.channels.stage? id = some (.running progress) ∧ progress.Abandonable run channel ∧
          found.isCancelled run := by
  have heard := heard_of_reach reach
  obtain ⟨⟨found, move⟩, passed, finish⟩ := mem_ended member
  obtain ⟨_, _, left, _, _, taken⟩ := reach.moment_of_mem passed
  have attempting := (attempting_of_move taken).1
  rw [finish] at attempting
  rcases attempting.of_finish with ⟨error, rfl⟩ | ⟨rfl, progress, run, channel, atId, bound, cancelled⟩
  · have failure := mem_failed.mpr ⟨error, member⟩
    exact .inl ⟨error, rfl, heard.said_of_failed failure⟩
  · have silent := heard.said_of_not_failed (not_failed_of_ok reach member)
    exact .inr ⟨rfl, silent, found, move, progress, run, channel, passed, finish, atId, bound, cancelled⟩

/-- Where nothing is cancelled, whatever ends has failed. -/
theorem failed_of_ended (once : starts past ≤ 1) (spared : shutDown past = [])
    {outcome : Option (Except SourceError Unit)} (member : (id, outcome) ∈ (attemptHistory past).ended) :
    id ∈ failed past := by
  rcases ended_how reach member with ⟨error, rfl, _⟩ |
    ⟨_, _, found, move, progress, run, channel, passed, _, atId, bound, cancelled⟩
  · exact mem_failed.mpr ⟨error, member⟩
  · obtain ⟨before, after, _, rfl, earlier, _⟩ := reach.moment_of_mem passed
    rw [shutDown, List.filterMap_append, List.append_eq_nil_iff] at spared
    have started : starts before ≤ 1 := Nat.le_trans (starts_le_append ..) once
    exact absurd cancelled
      ((roster_of_reach earlier).not_cancelled started spared.1 atId bound.run_eq)

/-- What the attempts that have ended told makes up the blocks, and what the last one told the rest. -/
theorem announced_blocks (once : starts past ≤ 1) (spared : shutDown past = []) :
    ∃ blocks rest, announced past = List.flatten blocks ++ rest ∧
      (∀ block ∈ blocks, block = [.inactive] ∨ block = [.active, .inactive]) ∧
      (rest = [] ∨ rest = [.active]) := by
  have heard := heard_of_reach reach
  have chronicle := chronicle_of_reach reach
  have least := chronicle.ended_le_begun
  have most := Nat.le_trans chronicle.begun_le_settled (Nat.succ_le_succ chronicle.settled_le_ended)
  have allFailed : ∀ block ∈ (List.range (attemptHistory past).ended.length).map (said past),
      block = [.inactive] ∨ block = [.active, .inactive] := by
    intro block member
    obtain ⟨id, within, rfl⟩ := List.mem_map.mp member
    rw [← chronicle.ended_eq] at within
    obtain ⟨⟨id, outcome⟩, ended, rfl⟩ := List.mem_map.mp within
    exact heard.said_of_failed (failed_of_ended reach once spared ended)
  rw [heard.announced_eq, chronicle.begun_eq]
  rcases Nat.lt_or_eq_of_le least with under | same
  · have count : (attemptHistory past).begun.length = (attemptHistory past).ended.length + 1 := by omega
    refine ⟨_, said past (attemptHistory past).ended.length, ?_, allFailed, ?_⟩
    · rw [count, List.range_succ, List.flatMap_append, List.flatMap_singleton, List.flatMap]
    · exact heard.said_of_not_failed fun failure => Nat.lt_irrefl _ (lt_of_failed chronicle failure)
  · refine ⟨_, [], ?_, allFailed, .inl rfl⟩
    rw [← same, List.flatMap, List.append_nil]

theorem resolved_ended {outcome : Option (Except SourceError Unit)}
    (resolved : store.channels.outcome? id = some outcome) : (id, outcome) ∈ (attemptHistory past).ended :=
  (chronicle_of_reach reach).mem_ended (SingleFlight.outcome?_eq_some.mp resolved) rfl

end

/-- Whatever the server does and in whatever order things happen, what is dispatched of the channel is what its
attempts tell of it, one after the other: that it is live, at most once, and that it is lost, at most once and
as the last word. -/
theorem connectivity_protocol {options : SyncOptions}
    (reach : Reach move? { options := options } past store) : ConnectivityProtocol past store := by
  have heard := heard_of_reach reach
  have chronicle := chronicle_of_reach reach
  refine ⟨?_, connectivity_eq reach, chronicle.begun_eq, ?_, ?_, ?_, ?_, ?_, ?_, heard.said_eq,
    fun _ _ member => ended_how reach member, fun _ _ => resolved_ended reach, heard.announced_eq,
    announced_blocks reach, ?_⟩
  · rintro before found preference task after rfl
    obtain ⟨left, _, taken, _⟩ := reach.moment
    exact ⟨left, taken, board_of_step taken⟩
  · rw [chronicle.ended_eq, chronicle.begun_eq]
    exact range_prefix chronicle.ended_le_begun
  · exact Nat.le_trans chronicle.begun_le_settled (Nat.succ_le_succ chronicle.settled_le_ended)
  · intro first second progress progress' atFirst atSecond
    exact (chronicle.eq_of_running atFirst).trans (chronicle.eq_of_running atSecond).symm
  · intro found move passed state told
    obtain ⟨_, _, left, _, _, taken⟩ := reach.moment_of_mem passed
    exact exists_running_of_connectivity taken told
  · rintro before ⟨found, move⟩ after rfl
    obtain ⟨left, earlier, taken, _⟩ := reach.moment
    exact (heard_of_reach earlier).active_iff taken
  · rintro ⟨found, move⟩ passed
    obtain ⟨_, _, left, _, _, taken⟩ := reach.moment_of_mem passed
    exact inactive_iff_of_move taken
  · intro once spared
    obtain ⟨blocks, rest, same, lost, last⟩ := announced_blocks reach once spared
    rw [same]
    exact not_infix_flatten lost last

/-- An open that fails, a channel that goes live, repeats itself and is lost, and one that is live when a
second start cancels its run. -/
theorem connectivity_protocol_of_restart :
    ∃ past store, Reach move? { options := {} } past store ∧
      announced past = [.inactive, .active, .inactive, .active] ∧
      said past 1 = [.active, .inactive] ∧ said past 2 = [.active] ∧
      (attemptHistory past).ended = [(0, some (.error .closed)), (1, some (.error .closed)), (2, some (.ok ()))] ∧
      store.board.connectivity = .active ∧ ConnectivityProtocol past store := by
  have reach : Reach move? { options := {} } _ _ :=
    .of_trail [.start, .step .work (.syncLoop 1), .step .work (.syncLoop 1),
      .step .work (.channel 0), .step .work (.channel 0), .refuseChannel .closed,
      .step .work (.channel 0), .step .work (.channel 0), .step .work (.channel 0),
      .step .work (.channel 0),
      .step .work (.syncLoop 1), .wait 1000, .step .work (.syncLoop 1), .step .work (.syncLoop 1),
      .step .work (.syncLoop 1),
      .step .work (.channel 1), .step .work (.channel 1), .grantChannel, .step .work (.channel 1),
      .send 0 [.ok .init, .ok .init], .step .work (.channel 1), .step .work (.channel 1),
      .step .work (.channel 1), .step .work (.channel 1), .endChannel 0, .step .work (.channel 1),
      .step .work (.channel 1), .step .work (.channel 1), .step .work (.channel 1),
      .step .work (.syncLoop 1), .wait 1000, .step .work (.syncLoop 1), .step .work (.syncLoop 1),
      .step .work (.syncLoop 1),
      .step .work (.channel 2), .step .work (.channel 2), .grantChannel, .step .work (.channel 2),
      .send 1 [.ok .init], .step .work (.channel 2), .step .work (.channel 2), .start,
      .step .cancellation (.channel 2)] rfl
  exact ⟨_, _, reach, rfl, rfl, rfl, rfl, rfl, connectivity_protocol reach⟩

end SessionBoard.LiveStore
