import SessionBoard.Proofs.Store.Connectivity

namespace SessionBoard

/-- The last snapshot that some events bring. -/
def StoreEvent.lastSnapshot? (events : List StoreEvent) : Option Snapshot :=
  (events.filterMap snapshot?).getLast?

/-- The last of some events to tell of the health of the push channel. -/
def StoreEvent.lastConnectivity? (events : List StoreEvent) : Option Connectivity :=
  (events.filterMap connectivity?).getLast?

theorem getLast?_filterMap_append {τ υ : Type} (read? : τ → Option υ) (items : List τ)
    (next : Option τ) (first : υ) : (((items ++ next.toList).filterMap read?).getLast?).getD first =
      (next.bind read?).getD (((items.filterMap read?).getLast?).getD first) := by
  rw [List.filterMap_append]
  cases next with
  | none => simp
  | some item => cases found : read? item <;> simp [found]

namespace Board

variable {board board' : Board} {event : StoreEvent} {listeners : List Nat} {inboxes : List Inbox}
  {id other : Nat}

/-- The events that a subscriber has not received. -/
def queue (board : Board) (id : Nat) : List StoreEvent :=
  ((board.inboxes[id]?).map (·.queue)).getD []

/-- Nobody is notified twice, and nobody who has no inbox. -/
structure Orderly (board : Board) : Prop where
  nodup : board.listeners.Nodup
  bound : ∀ id ∈ board.listeners, id < board.inboxes.length

/-- A subscriber is notified of the next event. That is put at the end of its inbox, so the events that it has
not received are the last ones that were dispatched, in their order, whoever else comes and goes. -/
structure Notifies (board : Board) (id : Nat) : Prop where
  listens : id ∈ board.listeners
  present : isListening board.inboxes id

theorem length_deliver (event : StoreEvent) (listeners : List Nat) (inboxes : List Inbox) :
    (deliver event listeners inboxes).length = inboxes.length := by
  unfold deliver
  induction listeners generalizing inboxes with
  | nil => rfl
  | cons first listeners ih => rw [List.foldl_cons, ih, List.length_modify]

/-- Every listener gets the event once. -/
theorem getElem?_deliver (nodup : listeners.Nodup) (inboxes : List Inbox) (id : Nat) :
    (deliver event listeners inboxes)[id]? = (inboxes[id]?).map fun inbox =>
      if id ∈ listeners then { inbox with queue := inbox.queue ++ [event] } else inbox := by
  unfold deliver
  induction listeners generalizing inboxes with
  | nil => simp
  | cons first listeners ih =>
    -- A listener that came once more would get the event once more.
    obtain ⟨absent, nodup⟩ := List.nodup_cons.mp nodup
    rw [List.foldl_cons, ih nodup, List.getElem?_modify, Option.map_eq_map, Option.map_map]
    by_cases same : first = id
    · subst same
      simp [absent, Function.comp_def]
    · simp [same, Ne.symm same, Function.comp_def]

theorem Orderly.subscribe (orderly : board.Orderly) : board.subscribe.1.Orderly where
  nodup := by
    refine List.nodup_append.mpr ⟨orderly.nodup, by simp, ?_⟩
    intro listener member fresh atEnd same
    have within := orderly.bound listener member
    rw [List.mem_singleton] at atEnd
    omega
  bound := by
    intro listener member
    simp only [Board.subscribe, List.length_append, List.length_singleton]
    rcases List.mem_append.mp member with early | fresh
    · have := orderly.bound listener early
      omega
    · rw [List.mem_singleton] at fresh
      omega

theorem Orderly.drop (orderly : board.Orderly) (id : Nat) : (board.drop id).Orderly where
  nodup := orderly.nodup
  bound := by simpa [Board.drop] using orderly.bound

/-- Receiving takes an event off one inbox and leaves everything else as it is. -/
theorem receive?_eq_some :
    board.receive? id = some (event, board') ↔ ∃ queue dropped,
      board.inboxes[id]? = some ⟨event :: queue, dropped⟩ ∧
        board' = { board with inboxes := board.inboxes.set id ⟨queue, dropped⟩ } := by
  unfold receive?
  split
  · rename_i first rest dropped found
    simp only [found, Option.some.injEq, Prod.mk.injEq, Inbox.mk.injEq, List.cons.injEq]
    constructor
    · rintro ⟨rfl, rfl⟩
      exact ⟨rest, dropped, ⟨⟨rfl, rfl⟩, rfl⟩, rfl⟩
    · rintro ⟨_, _, ⟨⟨rfl, rfl⟩, rfl⟩, rfl⟩
      exact ⟨rfl, rfl⟩
  · rename_i empty
    simp only [reduceCtorEq, false_iff]
    rintro ⟨queue, dropped, found, _⟩
    exact empty event queue dropped found

theorem Orderly.receive (orderly : board.Orderly) (received : board.receive? id = some (event, board')) :
    board'.Orderly := by
  obtain ⟨queue, dropped, _, rfl⟩ := receive?_eq_some.mp received
  exact ⟨orderly.nodup, by simpa using orderly.bound⟩

theorem listeners_dispatch (board : Board) (event : StoreEvent) :
    (board.dispatch event).listeners = board.listeners.filter (isListening board.inboxes) := by
  cases event <;> rfl

theorem inboxes_dispatch (board : Board) (event : StoreEvent) :
    (board.dispatch event).inboxes =
      deliver event (board.listeners.filter (isListening board.inboxes)) board.inboxes := by
  cases event <;> rfl

theorem Orderly.dispatch (orderly : board.Orderly) (event : StoreEvent) :
    (board.dispatch event).Orderly where
  nodup := by
    rw [listeners_dispatch]
    exact orderly.nodup.filter _
  bound := by
    intro listener member
    rw [listeners_dispatch, List.mem_filter] at member
    rw [inboxes_dispatch, length_deliver]
    exact orderly.bound listener member.1

theorem notifies_subscribe (board : Board) :
    board.subscribe.1.Notifies board.subscribe.2 ∧ board.subscribe.1.queue board.subscribe.2 = [] := by
  refine ⟨⟨?_, ?_⟩, ?_⟩ <;> simp [Board.subscribe, isListening, queue]

/-- A subscriber is not concerned by what leaves its inbox as it is and all listeners where they are. -/
theorem Notifies.of_same (notifies : board.Notifies id) (listeners : board.listeners ⊆ board'.listeners)
    (same : board'.inboxes[id]? = board.inboxes[id]?) :
    board'.Notifies id ∧ board'.queue id = board.queue id := by
  have present := notifies.present
  refine ⟨⟨listeners notifies.listens, ?_⟩, ?_⟩
  · rwa [isListening, same]
  · rw [queue, same, queue]

theorem Notifies.subscribe (notifies : board.Notifies id) :
    board.subscribe.1.Notifies id ∧ board.subscribe.1.queue id = board.queue id := by
  obtain ⟨inbox, atId, _⟩ := (Option.any_eq_true _ _).mp notifies.present
  obtain ⟨within, _⟩ := List.getElem?_eq_some_iff.mp atId
  exact notifies.of_same (List.subset_append_left ..) (List.getElem?_append_left within)

theorem Notifies.drop (notifies : board.Notifies id) (another : other ≠ id) :
    (board.drop other).Notifies id ∧ (board.drop other).queue id = board.queue id :=
  notifies.of_same (List.Subset.refl _) (by simp [Board.drop, another])

theorem Notifies.receive_other (notifies : board.Notifies id) (another : other ≠ id)
    (received : board.receive? other = some (event, board')) :
    board'.Notifies id ∧ board'.queue id = board.queue id := by
  obtain ⟨queue, dropped, _, rfl⟩ := receive?_eq_some.mp received
  exact notifies.of_same (List.Subset.refl _) (List.getElem?_set_ne another)

/-- A subscriber receives the oldest event that it has not received. -/
theorem Notifies.receive (notifies : board.Notifies id)
    (received : board.receive? id = some (event, board')) :
    board'.Notifies id ∧ board.queue id = event :: board'.queue id := by
  obtain ⟨queue, dropped, atId, rfl⟩ := receive?_eq_some.mp received
  obtain ⟨within, _⟩ := List.getElem?_eq_some_iff.mp atId
  have present := notifies.present
  rw [isListening, atId] at present
  refine ⟨⟨notifies.listens, ?_⟩, ?_⟩
  · rw [isListening, List.getElem?_set_self within]
    exact present
  · simp [Board.queue, atId, List.getElem?_set_self within]

theorem Notifies.dispatch (notifies : board.Notifies id) (orderly : board.Orderly) (event : StoreEvent) :
    (board.dispatch event).Notifies id ∧
      (board.dispatch event).queue id = board.queue id ++ [event] := by
  obtain ⟨inbox, atId, present⟩ := (Option.any_eq_true _ _).mp notifies.present
  have member : id ∈ board.listeners.filter (isListening board.inboxes) :=
    List.mem_filter.mpr ⟨notifies.listens, notifies.present⟩
  have delivered : (board.dispatch event).inboxes[id]? =
      some { inbox with queue := inbox.queue ++ [event] } := by
    rw [inboxes_dispatch, getElem?_deliver (orderly.nodup.filter _), atId, Option.map_some,
      if_pos member]
  refine ⟨⟨by rwa [listeners_dispatch], ?_⟩, ?_⟩
  · rw [isListening, delivered]
    exact present
  · rw [queue, queue, delivered, atId]
    rfl

inductive Move
  | subscribe
  /-- A subscriber drops its end. -/
  | drop (subscriber : Nat)
  | receive (subscriber : Nat)
  | dispatch (event : StoreEvent)

def move? (board : Board) : Move → Option Board
  | .subscribe => some board.subscribe.1
  | .drop subscriber => some (board.drop subscriber)
  | .receive subscriber => (board.receive? subscriber).map Prod.snd
  | .dispatch event => some (board.dispatch event)

/-- What a move dispatches. -/
def dispatched? : Board × Move → Option StoreEvent
  | (_, .dispatch event) => some event
  | _ => none

/-- What a subscriber receives by a move. -/
def received? (id : Nat) : Board × Move → Option StoreEvent
  | (board, .receive subscriber) =>
    if subscriber = id then (board.receive? subscriber).map Prod.fst else none
  | _ => none

variable {move : Move}

theorem Orderly.of_move (orderly : board.Orderly) (taken : board.move? move = some board') :
    board'.Orderly := by
  cases move with
  | subscribe =>
    cases taken
    exact orderly.subscribe
  | drop subscriber =>
    cases taken
    exact orderly.drop subscriber
  | receive subscriber =>
    obtain ⟨⟨event, _⟩, received, rfl⟩ := Option.map_eq_some_iff.mp taken
    exact orderly.receive received
  | dispatch event =>
    cases taken
    exact orderly.dispatch event

/-- As long as a subscriber keeps its end, what a move dispatches waits for it after everything that waits
already, and what it receives by a move has waited longest. -/
theorem Notifies.of_move (notifies : board.Notifies id) (orderly : board.Orderly) (stays : move ≠ .drop id)
    (taken : board.move? move = some board') :
    board'.Notifies id ∧ (received? id (board, move)).toList ++ board'.queue id =
      board.queue id ++ (dispatched? (board, move)).toList := by
  cases move with
  | subscribe =>
    cases taken
    exact notifies.subscribe.imp_right (·.trans (List.append_nil _).symm)
  | drop subscriber =>
    cases taken
    have another : subscriber ≠ id := fun same => stays (congrArg Move.drop same)
    exact (notifies.drop another).imp_right (·.trans (List.append_nil _).symm)
  | receive subscriber =>
    obtain ⟨⟨event, _⟩, received, rfl⟩ := Option.map_eq_some_iff.mp taken
    by_cases own : subscriber = id
    · subst own
      obtain ⟨still, queue⟩ := notifies.receive received
      refine ⟨still, ?_⟩
      simp only [received?, received, queue, dispatched?, if_true, Option.map_some, Option.toList_some,
        Option.toList_none, List.singleton_append, List.append_nil]
    · obtain ⟨still, queue⟩ := notifies.receive_other own received
      refine ⟨still, ?_⟩
      simp only [received?, own, queue, dispatched?, if_false, Option.toList_none, List.nil_append,
        List.append_nil]
  | dispatch event =>
    cases taken
    exact notifies.dispatch orderly event

end Board

namespace LiveStore

variable {store store' : LiveStore} {past : History} {move : Move} {id : Nat}

/-- A subscriber receives an event, or is dropped. -/
def Move.isOfSubscriber (id : Nat) : Move → Bool
  | .unsubscribe other | .receive other => other = id
  | _ => false

/-- What a move is to the board, unless it leaves the board as it is. -/
def boardMove? : LiveStore × Move → Option Board.Move
  | (_, .subscribe) => some .subscribe
  | (_, .unsubscribe subscriber) => some (.drop subscriber)
  | (_, .receive subscriber) => some (.receive subscriber)
  | (store, .step _ task) => (store.stepDispatch? task).map .dispatch
  | _ => none

theorem board_of_move (taken : store.move? move = some store') :
    (boardMove? (store, move)).elim (some store.board) store.board.move? = some store'.board := by
  cases move with
  | receive subscriber =>
    obtain ⟨⟨event, board⟩, received, rfl⟩ := Option.map_eq_some_iff.mp taken
    simp only [boardMove?, Option.elim, Board.move?, received, Option.map_some]
  | step preference task =>
    rw [board_of_step taken, boardMove?]
    cases store.stepDispatch? task <;> rfl
  | _ =>
    cases taken
    rfl

/-- A move dispatches what it is to the board. -/
theorem dispatch?_eq (store : LiveStore) (move : Move) :
    dispatch? (store, move) =
      (boardMove? (store, move)).bind fun onBoard => Board.dispatched? (store.board, onBoard) := by
  cases move with
  | step preference task =>
    rw [dispatch?, boardMove?]
    cases store.stepDispatch? task <;> rfl
  | _ => rfl

theorem orderly_of_move (orderly : store.board.Orderly) (taken : store.move? move = some store') :
    store'.board.Orderly := by
  have onBoard := board_of_move taken
  cases moves : boardMove? (store, move) with
  | none =>
    rw [moves] at onBoard
    rwa [← Option.some.inj onBoard]
  | some boardMove =>
    rw [moves] at onBoard
    exact orderly.of_move onBoard

theorem orderly_of_reach {options : SyncOptions} (reach : Reach move? { options := options } past store) :
    store.board.Orderly :=
  reach.invariant (fun store => store.board.Orderly) ⟨.nil, by simp⟩
    fun _ _ _ orderly taken => orderly_of_move orderly taken

/-- What is a subscriber's own to the store is its own to the board. -/
theorem of_spares {boardMove : Board.Move} (moves : boardMove? (store, move) = some boardMove)
    (spares : move.isOfSubscriber id = false) :
    boardMove ≠ .drop id ∧ Board.received? id (store.board, boardMove) = none := by
  cases move with
  | subscribe =>
    cases moves
    exact ⟨Board.Move.noConfusion, rfl⟩
  | unsubscribe other =>
    cases moves
    exact ⟨fun same => of_decide_eq_false spares (Board.Move.drop.inj same), rfl⟩
  | receive other =>
    cases moves
    exact ⟨Board.Move.noConfusion, if_neg (of_decide_eq_false spares)⟩
  | step preference task =>
    obtain ⟨event, _, rfl⟩ := Option.map_eq_some_iff.mp moves
    exact ⟨Board.Move.noConfusion, rfl⟩
  | _ => cases moves

/-- What a move dispatches waits for the subscriber after everything that waits already, and nothing else
does, as long as the subscriber itself does nothing. -/
theorem queue_of_move (orderly : store.board.Orderly) (notifies : store.board.Notifies id)
    (spares : move.isOfSubscriber id = false) (taken : store.move? move = some store') :
    store'.board.Notifies id ∧
      store'.board.queue id = store.board.queue id ++ (dispatch? (store, move)).toList := by
  have onBoard := board_of_move taken
  rw [dispatch?_eq]
  cases moves : boardMove? (store, move) with
  | none =>
    rw [moves] at onBoard
    rw [← Option.some.inj onBoard]
    exact ⟨notifies, (List.append_nil _).symm⟩
  | some boardMove =>
    rw [moves] at onBoard
    obtain ⟨stays, nothing⟩ := of_spares moves spares
    simpa only [nothing, Option.toList_none, List.nil_append, Option.bind_some] using
      notifies.of_move orderly stays onBoard

end LiveStore

end SessionBoard
