import SessionBoard.Proofs.Dashboard.EventLoop
import SessionBoard.Proofs.Store.Dormant

namespace SessionBoard

namespace Dashboard

variable {dashboard dashboard' : Dashboard} {event : AppEvent}

/-- What the loop does besides changes nothing that the board shows of the store, and carries no event of
the store anywhere. -/
structure Aside (dashboard dashboard' : Dashboard) : Prop where
  subscriber : dashboard'.subscriber = dashboard.subscriber
  inbox : dashboard'.inbox = dashboard.inbox
  board : dashboard'.store.board = dashboard.store.board
  app : AppState.ShowsSame dashboard.app dashboard'.app

theorem Aside.refl (dashboard : Dashboard) : Aside dashboard dashboard :=
  ⟨rfl, rfl, rfl, .refl _⟩

theorem Aside.trans {dashboard'' : Dashboard} (first : Aside dashboard dashboard')
    (second : Aside dashboard' dashboard'') : Aside dashboard dashboard'' :=
  ⟨second.subscriber.trans first.subscriber, second.inbox.trans first.inbox,
    second.board.trans first.board, first.app.trans second.app⟩

theorem copyText_aside (dashboard : Dashboard) (text : List Char) :
    Aside dashboard (dashboard.copyText text).1 ∧ (dashboard.copyText text).2.store? = none := by
  unfold copyText
  dsimp only
  split <;> exact ⟨⟨rfl, rfl, rfl, .refl _⟩, rfl⟩

theorem perform_aside {effect : Effect} (performed : dashboard.perform effect = .ok dashboard') :
    Aside dashboard dashboard' := by
  cases effect with
  | quit | refresh =>
    cases performed
    exact ⟨rfl, rfl, rfl, rfl, rfl⟩
  | copy text =>
    obtain ⟨copied, other⟩ := dashboard.copyText_aside text
    obtain ⟨⟨app, effects⟩, updated, rest⟩ := Checked.bind_eq_ok.mp performed
    cases rest
    exact copied.trans ⟨rfl, rfl, rfl, AppState.showsSame_update other updated⟩

theorem performAll_aside {effects : List Effect}
    (performed : effects.foldlM perform dashboard = .ok dashboard') : Aside dashboard dashboard' := by
  induction effects generalizing dashboard with
  | nil =>
    cases performed
    exact .refl _
  | cons effect effects ih =>
    rw [List.foldlM_cons] at performed
    obtain ⟨between, first, rest⟩ := Checked.bind_eq_ok.mp performed
    exact (perform_aside first).trans (ih rest)

/-- The reducer has the event, and the rest is done besides. -/
theorem react_eq_ok (reacted : dashboard.react event = .ok dashboard') :
    ∃ app effects, dashboard.app.update event = .ok (app, effects) ∧
      Aside { dashboard with app := app } dashboard' := by
  obtain ⟨⟨app, effects⟩, updated, performed⟩ := Checked.bind_eq_ok.mp reacted
  exact ⟨app, effects, updated, performAll_aside performed⟩

theorem redraw_aside (redrawn : dashboard.redraw = .ok dashboard') : Aside dashboard dashboard' := by
  unfold redraw at redrawn
  split at redrawn
  · obtain ⟨lines, _, rest⟩ := Checked.bind_eq_ok.mp redrawn
    cases rest
    exact ⟨rfl, rfl, rfl, rfl, rfl⟩
  · cases redrawn
    exact .refl _

end Dashboard

namespace EventLoop

variable {loop loop' : EventLoop} {move : Move} {past : History} {store : LiveStore}

/-- What the store dispatches by a move. -/
def dispatch? : EventLoop × Move → Option StoreEvent
  | (loop, .store move) => LiveStore.dispatch? (loop.dashboard.store, move)
  | _ => none

/-- The event of the store that the reducer is handed. -/
def taken? : EventLoop × Move → Option StoreEvent
  | (loop, .react) => loop.batch.head?.bind AppEvent.store?
  | _ => none

def dispatched (past : History) : List StoreEvent :=
  past.filterMap dispatch?

def taken (past : History) : List StoreEvent :=
  past.filterMap taken?

/-- The events of the store that are on their way to the reducer, the next one first. -/
def pending (loop : EventLoop) : List StoreEvent :=
  loop.batch.filterMap AppEvent.store? ++ loop.dashboard.inbox ++
    loop.dashboard.store.board.queue loop.dashboard.subscriber

/-- Nothing waits for the board: not in its subscription, not in its inbox and not in a round. -/
structure Drained (loop : EventLoop) : Prop where
  forwarded : loop.dashboard.waiting = 0
  inbox : loop.dashboard.inbox = []
  batch : loop.batch.filterMap AppEvent.store? = []

theorem Drained.pending_eq (drained : loop.Drained) : loop.pending = [] := by
  have queue : loop.dashboard.store.board.queue loop.dashboard.subscriber = [] := by
    have forwarded := drained.forwarded
    unfold Dashboard.waiting at forwarded
    unfold Board.queue
    cases found : loop.dashboard.store.board.inboxes[loop.dashboard.subscriber]? <;> simp_all
  rw [pending, drained.batch, drained.inbox, queue]
  rfl

/-- The board hears of every event. -/
structure Subscribed (loop : EventLoop) : Prop where
  orderly : loop.dashboard.store.board.Orderly
  notifies : loop.dashboard.store.board.Notifies loop.dashboard.subscriber

theorem store_roundEvents {dashboard : Dashboard} {round : Round} (genuine : Genuine round) :
    (dashboard.roundEvents round).filterMap AppEvent.store? = dashboard.inbox := by
  have own : dashboard.inbox.filterMap (AppEvent.store? ∘ .store) = dashboard.inbox :=
    List.filterMap_some
  have tick : (if round.ticks then [AppEvent.tick] else []).filterMap AppEvent.store? = [] := by
    cases round.ticks <;> rfl
  rw [Dashboard.roundEvents, List.filterMap_append, List.filterMap_append, List.filterMap_cons_none rfl,
    List.filterMap_map, own, genuine, tick, List.append_nil, List.append_nil]

/-- What is done besides concerns no event that is under way. -/
theorem Subscribed.aside {dashboard : Dashboard} (subscribed : loop.Subscribed)
    (aside : Dashboard.Aside loop.dashboard dashboard) (batch : List AppEvent) :
    Subscribed ⟨dashboard, batch⟩ ∧ pending ⟨dashboard, batch⟩ =
      batch.filterMap AppEvent.store? ++ loop.dashboard.inbox ++
        loop.dashboard.store.board.queue loop.dashboard.subscriber := by
  refine ⟨⟨aside.board ▸ subscribed.orderly, ?_⟩, ?_⟩
  · rw [aside.board, aside.subscriber]
    exact subscribed.notifies
  · rw [pending, aside.board, aside.subscriber, aside.inbox]

/-- Events leave in the order in which they come: what a move dispatches is pending last, and what the
reducer is handed was pending first. -/
theorem order_of_move (subscribed : loop.Subscribed) (goes : Goes loop move loop') :
    loop'.Subscribed ∧ loop.pending ++ (dispatch? (loop, move)).toList =
      (taken? (loop, move)).toList ++ loop'.pending := by
  cases goes with
  | store spares moved =>
    obtain ⟨notifies, queue⟩ :=
      LiveStore.queue_of_move subscribed.orderly subscribed.notifies spares moved
    refine ⟨⟨LiveStore.orderly_of_move subscribed.orderly moved, notifies⟩, ?_⟩
    simp only [pending, queue, dispatch?, taken?, Option.toList_none, List.nil_append,
      List.append_assoc]
  | forward received =>
    obtain ⟨notifies, queue⟩ := subscribed.notifies.receive received
    refine ⟨⟨subscribed.orderly.receive received, notifies⟩, ?_⟩
    simp only [pending, queue, dispatch?, taken?, Option.toList_none, List.nil_append,
      List.append_assoc, List.append_nil, List.singleton_append]
  | copying => exact ⟨⟨subscribed.orderly, subscribed.notifies⟩, List.append_nil _⟩
  | collect goesOn idle genuine =>
    -- What the round does not take up stays in the inbox, behind what it does.
    refine ⟨⟨subscribed.orderly, subscribed.notifies⟩, ?_⟩
    simp only [pending, store_roundEvents genuine, idle, List.filterMap_nil, dispatch?, taken?,
      Option.toList_none, List.nil_append, List.append_nil, List.take_append_drop]
  | @react event batch _ first reacted =>
    obtain ⟨app, effects, _, aside⟩ := Dashboard.react_eq_ok reacted
    -- The reducer changes the state first, and then what it asks for is done.
    have before : Subscribed ⟨{ loop.dashboard with app := app }, loop.batch⟩ :=
      ⟨subscribed.orderly, subscribed.notifies⟩
    obtain ⟨after, same⟩ := before.aside aside batch
    refine ⟨after, ?_⟩
    rw [same, pending, first]
    cases store : event.store? <;> simp [dispatch?, taken?, first, store]
  | redraw idle redrawn =>
    obtain ⟨after, same⟩ := subscribed.aside (Dashboard.redraw_aside redrawn) []
    refine ⟨after, ?_⟩
    rw [same, pending, idle]
    exact List.append_nil _

/-- The store shows what it dispatches, whatever the loop does besides. -/
theorem board_of_move (goes : Goes loop move loop') :
    loop'.dashboard.store.board.snapshot =
        ((dispatch? (loop, move)).bind StoreEvent.snapshot?).getD loop.dashboard.store.board.snapshot ∧
      loop'.dashboard.store.board.connectivity =
        ((dispatch? (loop, move)).bind StoreEvent.connectivity?).getD
          loop.dashboard.store.board.connectivity := by
  cases goes with
  | store _ moved => exact ⟨LiveStore.snapshot_of_move moved, LiveStore.connectivity_of_move moved⟩
  | forward received => exact LiveStore.shown_of_receive received
  | copying | collect => exact ⟨rfl, rfl⟩
  | react _ reacted =>
    obtain ⟨_, _, _, aside⟩ := Dashboard.react_eq_ok reacted
    exact ⟨congrArg Board.snapshot aside.board, congrArg Board.connectivity aside.board⟩
  | redraw _ redrawn =>
    have aside := Dashboard.redraw_aside redrawn
    exact ⟨congrArg Board.snapshot aside.board, congrArg Board.connectivity aside.board⟩

/-- The board shows what the reducer is handed, whatever the loop does besides. -/
theorem shows_of_move {snapshot : Snapshot} {connectivity : Connectivity}
    (shows : loop.dashboard.app.Shows snapshot connectivity) (goes : Goes loop move loop') :
    loop'.dashboard.app.Shows (((taken? (loop, move)).bind StoreEvent.snapshot?).getD snapshot)
      (((taken? (loop, move)).bind StoreEvent.connectivity?).getD connectivity) := by
  cases goes with
  | store | forward | copying | collect => exact shows
  | redraw _ redrawn => exact shows.of_same (Dashboard.redraw_aside redrawn).app
  | @react event _ _ first reacted =>
    obtain ⟨app, effects, updated, aside⟩ := Dashboard.react_eq_ok reacted
    refine AppState.Shows.of_same ?_ aside.app
    rw [taken?, first, List.head?_cons, Option.bind_some]
    cases event with
    | store event =>
      cases updated
      exact shows.onStore event
    | _ => exact shows.of_same (AppState.showsSame_update rfl updated)

/-- What the store has dispatched since the board came, and how much of it the board shows. Every event waits
for the subscription, then in the inbox and then in a round, and no stage changes the order; so once nothing
waits any more the board shows all of it. -/
structure Carried (first : LiveStore) (past : History) (loop : EventLoop) : Prop where
  subscribed : loop.Subscribed
  order : dispatched past = taken past ++ loop.pending
  snapshot_eq : loop.dashboard.store.board.snapshot =
    (StoreEvent.lastSnapshot? (dispatched past)).getD first.board.snapshot
  connectivity_eq : loop.dashboard.store.board.connectivity =
    (StoreEvent.lastConnectivity? (dispatched past)).getD first.board.connectivity
  shows : loop.dashboard.app.Shows ((StoreEvent.lastSnapshot? (taken past)).getD [])
    ((StoreEvent.lastConnectivity? (taken past)).getD .unknown)

theorem carried_start (orderly : store.board.Orderly) (server : String) (tick : Nat) (now : Clock) :
    Carried store [] ⟨.ofStore store server tick now, []⟩ := by
  obtain ⟨notifies, queue⟩ := store.board.notifies_subscribe
  exact ⟨⟨orderly.subscribe, notifies⟩, queue.symm, rfl, rfl, AppState.shows_start server tick now⟩

theorem Carried.next (carried : Carried store past loop) (goes : Goes loop move loop') :
    Carried store (past ++ [(loop, move)]) loop' := by
  obtain ⟨subscribed, order⟩ := order_of_move carried.subscribed goes
  obtain ⟨snapshot, connectivity⟩ := board_of_move goes
  have shows := shows_of_move carried.shows goes
  have dispatchedNext : dispatched (past ++ [(loop, move)]) =
      dispatched past ++ (dispatch? (loop, move)).toList := filterMap_next ..
  have takenNext : taken (past ++ [(loop, move)]) = taken past ++ (taken? (loop, move)).toList :=
    filterMap_next ..
  refine ⟨subscribed, ?_, ?_, ?_, ?_⟩
  · rw [dispatchedNext, takenNext, carried.order, List.append_assoc, order, List.append_assoc]
  · rw [dispatchedNext, snapshot, carried.snapshot_eq]
    exact (getLast?_filterMap_append ..).symm
  · rw [dispatchedNext, connectivity, carried.connectivity_eq]
    exact (getLast?_filterMap_append ..).symm
  · rw [takenNext]
    simpa only [StoreEvent.lastSnapshot?, StoreEvent.lastConnectivity?,
      getLast?_filterMap_append] using shows

theorem carried_of_reach {server : String} {tick : Nat} {now : Clock} (orderly : store.board.Orderly)
    (reach : Reach move? ⟨.ofStore store server tick now, []⟩ past loop) : Carried store past loop := by
  induction reach with
  | start => exact carried_start orderly server tick now
  | next _ taken ih => exact ih.next (goes_of_move taken)

/-- The store had nothing to show when the board came, or it has published something since. What was published before a
subscription is not told to it again. -/
def Informed (first : LiveStore) (past : History) : Prop :=
  first.board.snapshot = [] ∨ ∃ snapshot, .update snapshot ∈ dispatched past

/-- The board shows what the store has to show. -/
structure Converged (loop : EventLoop) : Prop where
  shows : loop.dashboard.app.Shows loop.dashboard.store.board.snapshot
    loop.dashboard.store.board.connectivity
  counts_rows : (idsOf loop.dashboard.store.board.snapshot).Nodup →
    loop.dashboard.app.header.counts =
      .ofRecords (loop.dashboard.app.table.rows.map SessionRow.record)

theorem lastSnapshot?_isSome {events : List StoreEvent} {snapshot : Snapshot}
    (member : .update snapshot ∈ events) : (StoreEvent.lastSnapshot? events).isSome := by
  have brought : snapshot ∈ events.filterMap StoreEvent.snapshot? :=
    List.mem_filterMap.mpr ⟨_, member, rfl⟩
  exact List.getLast?_isSome.mpr (List.ne_nil_of_mem brought)

theorem lastSnapshot?_eq_none {events : List StoreEvent} (none_told : ∀ snapshot, .update snapshot ∉ events) :
    StoreEvent.lastSnapshot? events = none := by
  refine List.getLast?_eq_none_iff.mpr (List.filterMap_eq_nil_iff.mpr fun event member => ?_)
  cases event with
  | update snapshot => exact absurd member (none_told snapshot)
  | active | inactive => rfl

theorem Carried.snapshot_of_informed (carried : Carried store past loop) (informed : Informed store past) :
    loop.dashboard.store.board.snapshot = (StoreEvent.lastSnapshot? (dispatched past)).getD [] := by
  rw [carried.snapshot_eq]
  rcases informed with empty | ⟨snapshot, member⟩
  · rw [empty]
  · obtain ⟨last, found⟩ := Option.isSome_iff_exists.mp (lastSnapshot?_isSome member)
    rw [found]
    rfl

/-- A board that shows the snapshot of the store has been told of it, if there is anything in it. -/
theorem Carried.informed (carried : Carried store past loop) (all : dispatched past = taken past)
    (listed : loop.dashboard.app.table.Lists loop.dashboard.store.board.snapshot) : Informed store past := by
  by_contra uninformed
  obtain ⟨some_session, none_told⟩ := not_or.mp uninformed
  have nothing := lastSnapshot?_eq_none (not_exists.mp none_told)
  have empty := carried.shows.table
  rw [← all, nothing, Option.getD_none] at empty
  rw [carried.snapshot_eq, nothing, Option.getD_none] at listed
  obtain ⟨record, records, whole⟩ := List.exists_cons_of_ne_nil some_session
  have row := (listed.mem_keys_iff record.id).mpr (by simp [whole, idsOf])
  exact absurd ((empty.mem_keys_iff record.id).mp row) List.not_mem_nil

/-- Once nothing waits for a board that has come before the first start it shows the health of the push channel, and it
shows the snapshot of the store exactly if it has been told of it. Whatever the terminal has reported meanwhile and however
the events were spread over rounds makes no difference. -/
theorem converged {options : SyncOptions} {earlier : LiveStore.History} {server : String} {tick : Nat}
    {now : Clock} (before : Reach LiveStore.move? { options := options } earlier store)
    (unstarted : LiveStore.starts earlier = 0)
    (reach : Reach move? ⟨.ofStore store server tick now, []⟩ past loop) (drained : loop.Drained) :
    loop.dashboard.app.header.activity = .ofConnectivity loop.dashboard.store.board.connectivity ∧
      (Informed store past ↔ Converged loop) := by
  have carried := carried_of_reach (LiveStore.orderly_of_reach before) reach
  have all : dispatched past = taken past := by
    rw [carried.order, drained.pending_eq, List.append_nil]
  have health : loop.dashboard.store.board.connectivity =
      (StoreEvent.lastConnectivity? (taken past)).getD .unknown := by
    rw [carried.connectivity_eq, all, LiveStore.connectivity_of_unstarted before unstarted]
  refine ⟨?_, fun informed => ?_, fun converged => carried.informed all converged.shows.table⟩
  · rw [health]
    exact carried.shows.activity
  · have shows : loop.dashboard.app.Shows loop.dashboard.store.board.snapshot
        loop.dashboard.store.board.connectivity := by
      rw [carried.snapshot_of_informed informed, all, health]
      exact carried.shows
    exact ⟨shows, shows.counts_rows⟩

/-- A list with a repeated session is published while a round goes on, and the channel goes live before the
next one, which takes up both events. -/
theorem converged_after_two_rounds :
    ∃ earlier store past loop, Reach LiveStore.move? { options := {} } earlier store ∧
      LiveStore.starts earlier = 0 ∧ Reach move? ⟨.ofStore store "" 100 default, []⟩ past loop ∧
      loop.Drained ∧ Informed store past ∧ taken past = [.update [default, default], .active] ∧
      loop.dashboard.app.header.activity = .online ∧ loop.dashboard.app.table.rows.length = 1 ∧
      Converged loop := by
  have before : Reach LiveStore.move? { options := {} } _
      (LiveStore.subscribe { options := {} }).1.refresh.1 := .of_trail [.subscribe, .refresh] rfl
  have reach : Reach move?
      ⟨.ofStore (LiveStore.subscribe { options := {} }).1.refresh.1 "" 100 default, []⟩ _ _ :=
    .of_trail [.store .start, .store (.step .work (.syncLoop 1)), .store (.step .work (.syncLoop 1)),
      .store (.step .work (.refresh 0)), .store (.answerFetch (.ok [default, default])),
      .store (.step .work (.refresh 0)), .collect ⟨80, 24, default, [.key { key := .down }], true⟩ 0,
      .react, .store (.step .work (.refresh 0)), .forward, .react, .react, .redraw,
      .store .grantChannel, .store (.step .work (.channel 0)), .store (.step .work (.channel 0)),
      .store (.step .work (.channel 0)), .store (.send 0 [.ok .init]),
      .store (.step .work (.channel 0)), .store (.step .work (.channel 0)), .forward,
      .collect ⟨80, 24, default, [], false⟩ 2, .react, .react, .react] rfl
  exact ⟨_, _, _, _, before, rfl, reach, ⟨rfl, rfl, rfl⟩, .inl rfl, rfl, rfl, rfl,
    (converged before rfl reach ⟨rfl, rfl, rfl⟩).2.mp (.inl rfl)⟩

/-- A refresh that nobody listens to comes to its end before the board does. The store is started then, and a round takes
up all that there is; the store has a session to show, and the board has no row and counts none. -/
theorem not_converged_after_early_refresh :
    ∃ earlier store past loop, Reach LiveStore.move? { options := {} } earlier store ∧
      LiveStore.starts earlier = 0 ∧ Reach move? ⟨.ofStore store "" 100 default, []⟩ past loop ∧
      loop.Drained ∧ loop.dashboard.store.board.snapshot = [default] ∧
      loop.dashboard.app.table.rows = [] ∧ loop.dashboard.app.header.counts = {} ∧
      StateCounts.ofRecords loop.dashboard.store.board.snapshot ≠ {} := by
  have before : Reach LiveStore.move? { options := {} } _ _ :=
    .of_trail [.refresh, .step .work (.refresh 0), .answerFetch (.ok [default]),
      .step .work (.refresh 0), .step .work (.refresh 0)] rfl
  refine ⟨_, _, _, _, before, rfl, .of_trail [.store .start, .collect ⟨80, 24, default, [], true⟩ 0, .react,
    .react, .redraw] rfl, ⟨rfl, rfl, rfl⟩, rfl, rfl, rfl, ?_⟩
  decide

end EventLoop

end SessionBoard
