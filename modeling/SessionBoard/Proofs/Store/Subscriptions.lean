import SessionBoard.Proofs.Store.Delivery

namespace SessionBoard

namespace Board

variable {board board' first : Board} {move : Move} {id : Nat}

/-- Moves, oldest first, with the boards that they found. -/
abbrev History := List (Board × Move)

variable {past later : History}

/-- Everything that was dispatched. -/
def log (past : History) : List StoreEvent :=
  past.filterMap dispatched?

/-- Everything that a subscriber has received. -/
def received (past : History) (id : Nat) : List StoreEvent :=
  past.filterMap (received? id)

/-- The number that a new subscriber gets. -/
def joined? : Board × Move → Option Nat
  | (board, .subscribe) => some board.subscribe.2
  | _ => none

/-- A subscriber has not dropped its end. -/
def Living (later : History) (id : Nat) : Prop :=
  ∀ moment ∈ later, moment.2 ≠ .drop id

/-- How a subscriber has fared that joined before the later ones of all the moves. -/
structure Served (past later : History) (board : Board) (id : Nat) : Prop where
  /-- Nothing is lost, nothing comes twice, and nothing comes that was dispatched before. -/
  whole : Living later id → received past id ++ board.queue id = log later
  /-- Who has left has had the first part of it, and gets nothing more. -/
  part : received past id <+: log later
  left : ¬Living later id → board.receive? id = none
  /-- The next event is put into the inboxes of those who have not left, and the others are forgotten. -/
  notified : ∀ event, id ∈ (board.dispatch event).listeners ↔ Living later id

/-- What the history of a board and the board itself have in common. -/
structure Delivered (past : History) (board : Board) : Prop where
  /-- No number is given twice. -/
  numbered : (past.filterMap joined?).Nodup
  served : ∀ before found later, past = before ++ (found, .subscribe) :: later →
    Served past later board found.subscribe.2
  snapshot_eq : board.snapshot = (StoreEvent.lastSnapshot? (log past)).getD []
  connectivity_eq : board.connectivity = (StoreEvent.lastConnectivity? (log past)).getD .unknown

theorem shown_of_move (taken : board.move? move = some board') :
    board'.snapshot = ((dispatched? (board, move)).bind StoreEvent.snapshot?).getD board.snapshot ∧
      board'.connectivity =
        ((dispatched? (board, move)).bind StoreEvent.connectivity?).getD board.connectivity := by
  cases move with
  | receive subscriber =>
    obtain ⟨⟨event, _⟩, received, rfl⟩ := Option.map_eq_some_iff.mp taken
    exact LiveStore.shown_of_receive received
  | dispatch event =>
    cases taken
    cases event <;> exact ⟨rfl, rfl⟩
  | _ =>
    cases taken
    exact ⟨rfl, rfl⟩

theorem shown_of_reach (reach : Reach move? first past board) :
    board.snapshot = (StoreEvent.lastSnapshot? (log past)).getD first.snapshot ∧
      board.connectivity = (StoreEvent.lastConnectivity? (log past)).getD first.connectivity := by
  induction reach with
  | start => exact ⟨rfl, rfl⟩
  | @next past found move left _ taken ih =>
    obtain ⟨snapshot, connectivity⟩ := shown_of_move taken
    have next : log (past ++ [(found, move)]) = log past ++ (dispatched? (found, move)).toList :=
      filterMap_next ..
    rw [next, snapshot, connectivity, ih.1, ih.2]
    exact ⟨(getLast?_filterMap_append ..).symm, (getLast?_filterMap_append ..).symm⟩

theorem length_of_move (taken : board.move? move = some board') :
    board'.inboxes.length = board.inboxes.length + (joined? (board, move)).toList.length := by
  cases move with
  | subscribe =>
    cases taken
    exact List.length_append
  | drop subscriber =>
    cases taken
    exact List.length_modify ..
  | receive subscriber =>
    obtain ⟨⟨event, _⟩, received, rfl⟩ := Option.map_eq_some_iff.mp taken
    obtain ⟨queue, dropped, _, rfl⟩ := receive?_eq_some.mp received
    exact List.length_set
  | dispatch event =>
    cases taken
    rw [inboxes_dispatch, length_deliver]
    rfl

/-- Subscribers are numbered in the order in which they join. -/
theorem joined_of_reach (reach : Reach move? {} past board) :
    past.filterMap joined? = List.range board.inboxes.length := by
  induction reach with
  | start => rfl
  | @next past found move left _ taken ih =>
    rw [filterMap_next, ih, length_of_move taken]
    cases move with
    | subscribe => exact List.range_succ.symm
    | _ => exact List.append_nil _

/-- Nobody receives anything before it has a number. -/
theorem received_eq_nil (reach : Reach move? {} past board) (fresh : board.inboxes.length ≤ id) :
    received past id = [] := by
  induction reach with
  | start => rfl
  | @next past found move left _ taken ih =>
    have length := length_of_move taken
    have nothing : received? id (found, move) = none := by
      cases move with
      | receive subscriber =>
        obtain ⟨⟨event, _⟩, received, rfl⟩ := Option.map_eq_some_iff.mp taken
        obtain ⟨queue, dropped, atId, _⟩ := receive?_eq_some.mp received
        obtain ⟨within, _⟩ := List.getElem?_eq_some_iff.mp atId
        have another : subscriber ≠ id := by omega
        exact if_neg another
      | _ => rfl
    have next : received (past ++ [(found, move)]) id =
        received past id ++ (received? id (found, move)).toList := filterMap_next ..
    rw [next, ih (by omega), nothing]
    rfl

/-- A subscriber has left, and its inbox has been emptied. -/
def HasLeft (board : Board) (id : Nat) : Prop :=
  board.inboxes[id]? = some { dropped := true }

theorem HasLeft.not_listening (left : board.HasLeft id) : isListening board.inboxes id = false := by
  rw [isListening, left]
  rfl

theorem HasLeft.receive? (left : board.HasLeft id) : board.receive? id = none := by
  rw [Board.receive?, left]

theorem getElem?_drop (board : Board) (subscriber id : Nat) :
    (board.drop subscriber).inboxes[id]? = (board.inboxes[id]?).map fun inbox =>
      if subscriber = id then { dropped := true } else inbox := by
  rw [Board.drop, List.getElem?_modify]
  by_cases own : subscriber = id <;> simp [own]

theorem Notifies.hasLeft (notifies : board.Notifies id) : (board.drop id).HasLeft id := by
  obtain ⟨inbox, atId, _⟩ := (Option.any_eq_true _ _).mp notifies.present
  rw [HasLeft, getElem?_drop, atId, Option.map_some, if_pos rfl]

/-- Who has left does not come back. -/
theorem HasLeft.of_move (left : board.HasLeft id) (orderly : board.Orderly)
    (taken : board.move? move = some board') : board'.HasLeft id ∧ received? id (board, move) = none := by
  obtain ⟨within, _⟩ := List.getElem?_eq_some_iff.mp left
  cases move with
  | subscribe =>
    cases taken
    exact ⟨(List.getElem?_append_left within).trans left, rfl⟩
  | drop subscriber =>
    cases taken
    rw [HasLeft, getElem?_drop, left, Option.map_some, ite_self]
    exact ⟨rfl, rfl⟩
  | receive subscriber =>
    obtain ⟨⟨event, _⟩, received, rfl⟩ := Option.map_eq_some_iff.mp taken
    have another : subscriber ≠ id := by
      rintro rfl
      cases left.receive?.symm.trans received
    obtain ⟨queue, dropped, _, rfl⟩ := receive?_eq_some.mp received
    exact ⟨(List.getElem?_set_ne another).trans left, if_neg another⟩
  | dispatch event =>
    cases taken
    refine ⟨?_, rfl⟩
    have unnotified : id ∉ board.listeners.filter (isListening board.inboxes) := fun member =>
      Bool.false_ne_true (left.not_listening.symm.trans (List.mem_filter.mp member).2)
    rw [HasLeft, inboxes_dispatch, getElem?_deliver (orderly.nodup.filter _), left, Option.map_some,
      if_neg unnotified]

/-- How things stand with a subscriber that was notified at first and had nothing waiting for it. -/
inductive Standing (later : History) (board : Board) (id : Nat) : Prop
  | stays (living : Living later id) (notifies : board.Notifies id)
      (whole : received later id ++ board.queue id = log later)
  | gone (dropped : ¬Living later id) (left : board.HasLeft id) (part : received later id <+: log later)

theorem living_next {moment : Board × Move} :
    Living (later ++ [moment]) id ↔ Living later id ∧ moment.2 ≠ .drop id := by
  simp only [Living, List.forall_mem_append, List.forall_mem_singleton]

theorem Standing.next (standing : Standing later board id) (orderly : board.Orderly)
    (taken : board.move? move = some board') : Standing (later ++ [(board, move)]) board' id := by
  have logged : log (later ++ [(board, move)]) = log later ++ (dispatched? (board, move)).toList :=
    filterMap_next ..
  have receivedNext : received (later ++ [(board, move)]) id =
      received later id ++ (received? id (board, move)).toList := filterMap_next ..
  cases standing with
  | stays living notifies whole =>
    by_cases drops : move = .drop id
    · subst drops
      cases taken
      refine .gone (fun still => (living_next.mp still).2 rfl) notifies.hasLeft ?_
      rw [receivedNext, logged, ← whole]
      simp only [received?, dispatched?, Option.toList_none, List.append_nil, List.prefix_append]
    · obtain ⟨still, queue⟩ := notifies.of_move orderly drops taken
      refine .stays (living_next.mpr ⟨living, drops⟩) still ?_
      rw [receivedNext, logged, List.append_assoc, queue, ← whole, List.append_assoc]
  | gone dropped left part =>
    obtain ⟨still, nothing⟩ := left.of_move orderly taken
    refine .gone (fun living => dropped (living_next.mp living).1) still ?_
    rw [receivedNext, logged, nothing, Option.toList_none, List.append_nil]
    exact part.trans (List.prefix_append ..)

theorem orderly_of_reach (orderly : first.Orderly) (reach : Reach move? first past board) :
    board.Orderly :=
  reach.invariant Orderly orderly fun _ _ _ kept taken => kept.of_move taken

theorem standing_of_reach (orderly : first.Orderly) (notifies : first.Notifies id)
    (empty : first.queue id = []) (reach : Reach move? first later board) : Standing later board id := by
  induction reach with
  | start => exact .stays (by simp [Living]) notifies empty
  | next reach taken ih => exact ih.next (orderly_of_reach orderly reach) taken

theorem Standing.served (standing : Standing later board id) (orderly : board.Orderly)
    (same : received past id = received later id) : Served past later board id := by
  cases standing with
  | stays living notifies whole =>
    rw [← same] at whole
    refine ⟨fun _ => whole, ⟨_, whole⟩, fun dropped => absurd living dropped, fun event => ?_⟩
    exact iff_of_true (notifies.dispatch orderly event).1.listens living
  | gone dropped left part =>
    rw [← same] at part
    refine ⟨fun living => absurd living dropped, part, fun _ => left.receive?, fun event => ?_⟩
    rw [listeners_dispatch, List.mem_filter, left.not_listening]
    exact iff_of_false (fun member => Bool.false_ne_true member.2) dropped

theorem delivered_of_reach (reach : Reach move? {} past board) : Delivered past board := by
  have nobody : Orderly {} := ⟨.nil, by simp⟩
  obtain ⟨snapshot, connectivity⟩ := shown_of_reach reach
  refine ⟨?_, ?_, snapshot, connectivity⟩
  · rw [joined_of_reach reach]
    exact List.nodup_range
  · rintro before found later rfl
    obtain ⟨_, earlier, taken, after⟩ := reach.moment
    cases taken
    have orderly := (orderly_of_reach nobody earlier).subscribe
    obtain ⟨notifies, empty⟩ := found.notifies_subscribe
    have nothing : received before found.subscribe.2 = [] := received_eq_nil earlier (Nat.le_refl _)
    refine (standing_of_reach orderly notifies empty after).served (orderly_of_reach orderly after) ?_
    rw [received, List.filterMap_append, ← received, nothing, List.nil_append]
    rfl

end Board

namespace LiveStore

variable {store store' : LiveStore} {past : History} {move : Move}

/-- The history of the board within that of the store. -/
def boardHistory (past : History) : Board.History :=
  past.filterMap fun moment => (boardMove? moment).map (moment.1.board, ·)

theorem boardHistory_next (past : History) (moment : LiveStore × Move) :
    boardHistory (past ++ [moment]) =
      boardHistory past ++ ((boardMove? moment).map (moment.1.board, ·)).toList :=
  filterMap_next ..

/-- A store takes its board through a history of the board. -/
theorem boardHistory_reach {options : SyncOptions} (reach : Reach move? { options := options } past store) :
    Reach Board.move? {} (boardHistory past) store.board := by
  induction reach with
  | start => exact .start
  | @next past found move left _ taken ih =>
    have onBoard := board_of_move taken
    rw [boardHistory_next]
    cases moves : boardMove? (found, move) with
    | none =>
      rw [moves] at onBoard
      rw [← Option.some.inj onBoard, Option.map_none, Option.toList_none, List.append_nil]
      exact ih
    | some boardMove =>
      rw [moves] at onBoard
      exact ih.next onBoard

/-- The board dispatches what the store does. -/
theorem log_boardHistory (past : History) : Board.log (boardHistory past) = past.filterMap dispatch? := by
  rw [Board.log, boardHistory, List.filterMap_filterMap]
  refine List.filterMap_congr fun moment _ => ?_
  rw [dispatch?_eq, Option.bind_map]
  rfl

/-- Every subscriber gets what is dispatched while it is there, whoever else comes and goes, and the board of
every store is one of those of which this is said. What it has received and what waits for it make up what was
dispatched since it joined, and what the board shows is what was dispatched last. -/
theorem delivered_in_order :
    (∀ past board, Reach Board.move? {} past board → Board.Delivered past board) ∧
      ∀ options past store, Reach move? { options := options } past store →
        Reach Board.move? {} (boardHistory past) store.board ∧
          Board.log (boardHistory past) = past.filterMap dispatch? :=
  ⟨fun _ _ reach => Board.delivered_of_reach reach,
    fun _ past _ reach => ⟨boardHistory_reach reach, log_boardHistory past⟩⟩

/-- One subscriber leaves before the second of three events and another one before the third, and one more
joins in between. Of a store the second one of two hears of the list that it has published. -/
theorem delivered_in_order_among_others :
    (∃ past board, Reach Board.move? {} past board ∧
      Board.log past = [.active, .update [default], .inactive] ∧ board.listeners = [1, 3] ∧
      Board.received past 1 = [.update [default]] ∧ board.queue 1 = [.inactive] ∧
      Board.received past 3 = [] ∧ board.queue 3 = [.inactive] ∧ Board.Delivered past board) ∧
    ∃ past store, Reach move? { options := {} } past store ∧
      past.filterMap dispatch? = [.update [default]] ∧ store.board.queue 1 = [.update [default]] ∧
      Board.Delivered (boardHistory past) store.board := by
  have onBoard : Reach Board.move? {} _ _ :=
    .of_trail [.subscribe, .dispatch .active, .subscribe, .subscribe, .drop 0,
      .dispatch (.update [default]), .receive 1, .drop 2, .subscribe, .dispatch .inactive] rfl
  have reach : Reach move? { options := {} } _ _ :=
    .of_trail [.subscribe, .refresh, .step .work (.refresh 0), .unsubscribe 0, .subscribe,
      .answerFetch (.ok [default]), .step .work (.refresh 0), .step .work (.refresh 0)] rfl
  exact ⟨⟨_, _, onBoard, rfl, rfl, rfl, rfl, rfl, rfl, delivered_in_order.1 _ _ onBoard⟩,
    ⟨_, _, reach, rfl, rfl, delivered_in_order.1 _ _ (delivered_in_order.2 _ _ _ reach).1⟩⟩

end LiveStore

end SessionBoard
