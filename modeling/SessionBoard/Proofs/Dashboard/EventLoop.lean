import SessionBoard.Proofs.App.Shown
import SessionBoard.Proofs.Dashboard.Rounds
import SessionBoard.Proofs.Store.Delivery

namespace SessionBoard

/-- A board whose loop may be in the middle of a round. While a round goes on the store does too, and so does
the carrying over of its events; so a round takes up what it finds when it begins and leaves the rest to a later
one. -/
structure EventLoop where
  dashboard : Dashboard
  /-- What the round has collected and the reducer has not been handed. -/
  batch : List AppEvent := []

namespace EventLoop

variable {loop loop' : EventLoop} {dashboard dashboard' : Dashboard} {round : Round}

inductive Move
  | store (move : LiveStore.Move)
  | forward
  /-- It is settled what the next attempts to copy come to. -/
  | copying (outcomes : List (Option String))
  /-- A round begins, and so many events of the inbox belong to it. -/
  | collect (round : Round) (count : Nat)
  /-- The reducer is handed the next event, and what it asks for is done. -/
  | react
  /-- The screen is drawn if that is due. -/
  | redraw

/-- The events that the terminal reports are not those of a store. -/
def Genuine (round : Round) : Prop :=
  round.input.filterMap AppEvent.store? = []

instance (round : Round) : Decidable (Genuine round) :=
  inferInstanceAs (Decidable (_ = []))

/-- The subscription of the board is its own: nobody else receives from it or drops it. More rounds can
be had than a terminal sees, since a drawing may be left out where it is due. -/
def move? (loop : EventLoop) : Move → Option EventLoop
  | .store move =>
    if move.isOfSubscriber loop.dashboard.subscriber then none
    else (loop.dashboard.store.move? move).map fun store =>
      { loop with dashboard := { loop.dashboard with store := store } }
  | .forward => loop.dashboard.forward?.map fun dashboard => { loop with dashboard := dashboard }
  | .copying outcomes =>
    some { loop with dashboard := { loop.dashboard with clipboard := outcomes } }
  | .collect round count =>
    if loop.dashboard.app.shouldQuit = false ∧ loop.batch = [] ∧ Genuine round then
      some {
        dashboard := { loop.dashboard with inbox := loop.dashboard.inbox.drop count }
        batch := { loop.dashboard with inbox := loop.dashboard.inbox.take count }.roundEvents round }
    else none
  | .react =>
    match loop.batch with
    | [] => none
    | event :: batch => (loop.dashboard.react event).toOption.map fun dashboard => { dashboard, batch }
  | .redraw =>
    if loop.batch = [] then loop.dashboard.redraw.toOption.map fun dashboard => { dashboard }
    else none

abbrev History := List (EventLoop × Move)

/-- All that a move can do. -/
inductive Goes (loop : EventLoop) : Move → EventLoop → Prop
  | store {move store} (spares : move.isOfSubscriber loop.dashboard.subscriber = false)
      (moved : loop.dashboard.store.move? move = some store) :
      Goes loop (.store move) ⟨{ loop.dashboard with store := store }, loop.batch⟩
  | forward {event board}
      (received : loop.dashboard.store.board.receive? loop.dashboard.subscriber = some (event, board)) :
      Goes loop .forward ⟨{ loop.dashboard with
        store := { loop.dashboard.store with board := board }
        inbox := loop.dashboard.inbox ++ [event] }, loop.batch⟩
  | copying {outcomes} :
      Goes loop (.copying outcomes) ⟨{ loop.dashboard with clipboard := outcomes }, loop.batch⟩
  | collect {round : Round} {count : Nat} (goesOn : loop.dashboard.app.shouldQuit = false)
      (idle : loop.batch = []) (genuine : Genuine round) :
      Goes loop (.collect round count) ⟨{ loop.dashboard with inbox := loop.dashboard.inbox.drop count },
        { loop.dashboard with inbox := loop.dashboard.inbox.take count }.roundEvents round⟩
  | react {event : AppEvent} {batch : List AppEvent} {dashboard : Dashboard}
      (first : loop.batch = event :: batch) (reacted : loop.dashboard.react event = .ok dashboard) :
      Goes loop .react ⟨dashboard, batch⟩
  | redraw {dashboard : Dashboard} (idle : loop.batch = [])
      (redrawn : loop.dashboard.redraw = .ok dashboard) : Goes loop .redraw ⟨dashboard, []⟩

theorem goes_of_move {move : Move} (taken : loop.move? move = some loop') : Goes loop move loop' := by
  cases move with
  | store move =>
    simp only [move?, Option.ite_none_left_eq_some, Bool.not_eq_true] at taken
    obtain ⟨store, moved, rfl⟩ := Option.map_eq_some_iff.mp taken.2
    exact .store taken.1 moved
  | forward =>
    obtain ⟨dashboard, forwarded, rfl⟩ := Option.map_eq_some_iff.mp taken
    obtain ⟨⟨event, board⟩, received, same⟩ := Option.bind_eq_some_iff.mp forwarded
    cases same
    exact .forward received
  | copying outcomes =>
    cases taken
    exact .copying
  | collect round count =>
    simp only [move?, Option.ite_none_right_eq_some, Option.some.injEq] at taken
    obtain ⟨⟨goesOn, idle, genuine⟩, rfl⟩ := taken
    exact .collect goesOn idle genuine
  | react =>
    cases batch : loop.batch with
    | nil => simp [move?, batch] at taken
    | cons event rest =>
      simp only [move?, batch] at taken
      obtain ⟨dashboard, reacted, rfl⟩ := Option.map_eq_some_iff.mp taken
      exact .react batch (Checked.toOption_eq_some.mp reacted)
  | redraw =>
    simp only [move?, Option.ite_none_right_eq_some] at taken
    obtain ⟨dashboard, redrawn, rfl⟩ := Option.map_eq_some_iff.mp taken.2
    exact .redraw taken.1 (Checked.toOption_eq_some.mp redrawn)

theorem reach_of_reactions {events : List AppEvent}
    (reduced : events.foldlM Dashboard.react dashboard = .ok dashboard') :
    ∃ past, Reach move? ⟨dashboard, events⟩ past ⟨dashboard', []⟩ := by
  induction events generalizing dashboard with
  | nil =>
    cases reduced
    exact ⟨[], .start⟩
  | cons event events ih =>
    rw [List.foldlM_cons] at reduced
    obtain ⟨between, first, rest⟩ := Checked.bind_eq_ok.mp reduced
    obtain ⟨later, reach⟩ := ih rest
    have taken : move? ⟨dashboard, event :: events⟩ .react = some ⟨between, events⟩ := by
      simp only [move?, first]
      rfl
    exact ⟨_, (Reach.start.next taken).append reach⟩

/-- A round that nothing comes between is a round of the loop. -/
theorem reach_of_step (genuine : Genuine round) (stepped : dashboard.step round = .ok dashboard') :
    ∃ past, Reach move? ⟨dashboard, []⟩ past ⟨dashboard', []⟩ := by
  unfold Dashboard.step at stepped
  split at stepped
  · cases stepped
    exact ⟨[], .start⟩
  · rename_i goesOn
    obtain ⟨reduced, reactions, redrawn⟩ := Checked.bind_eq_ok.mp stepped
    obtain ⟨middle, reach⟩ := reach_of_reactions reactions
    have collected : move? ⟨dashboard, []⟩ (.collect round dashboard.inbox.length) =
        some ⟨{ dashboard with inbox := [] }, dashboard.roundEvents round⟩ := by
      rw [move?, if_pos ⟨Bool.not_eq_true _ ▸ goesOn, rfl, genuine⟩]
      simp
    have drawn : move? ⟨reduced, []⟩ .redraw = some ⟨dashboard', []⟩ := by
      simp only [move?, redrawn]
      rfl
    exact ⟨_, ((Reach.start.next collected).append reach).next drawn⟩

/-- A run of rounds in one go is one of the runs of the loop. -/
theorem reach_of_rounds {past : List (Dashboard × Dashboard.Move)} {first : Dashboard}
    (reach : Reach Dashboard.move? first past dashboard)
    (own : ∀ found move, (found, .store move) ∈ past → move.isOfSubscriber found.subscriber = false)
    (genuine : ∀ found round, (found, .round round) ∈ past → Genuine round) :
    ∃ past', Reach move? ⟨first, []⟩ past' ⟨dashboard, []⟩ := by
  induction reach with
  | start => exact ⟨[], .start⟩
  | @next past dashboard move dashboard' _ taken ih =>
    obtain ⟨earlier, before⟩ := ih (fun found move member => own found move (by simp [member]))
      fun found round member => genuine found round (by simp [member])
    cases move with
    | store move =>
      obtain ⟨store, moved, rfl⟩ := Option.map_eq_some_iff.mp taken
      have spared := own dashboard move (by simp)
      have goes : move? ⟨dashboard, []⟩ (.store move) = some ⟨{ dashboard with store := store }, []⟩ := by
        simp [move?, spared, moved]
      exact ⟨_, before.next goes⟩
    | forward =>
      have goes : move? ⟨dashboard, []⟩ .forward = some ⟨dashboard', []⟩ :=
        congrArg (Option.map fun dashboard => EventLoop.mk dashboard []) taken
      exact ⟨_, before.next goes⟩
    | copying outcomes =>
      cases taken
      have goes : move? ⟨dashboard, []⟩ (.copying outcomes) =
          some ⟨{ dashboard with clipboard := outcomes }, []⟩ := rfl
      exact ⟨_, before.next goes⟩
    | round round =>
      obtain ⟨later, after⟩ := reach_of_step (genuine dashboard round (by simp))
        (Checked.toOption_eq_some.mp taken)
      exact ⟨_, before.append after⟩

end EventLoop

end SessionBoard
