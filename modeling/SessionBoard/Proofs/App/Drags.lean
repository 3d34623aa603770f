import SessionBoard.Proofs.App.Pointer
import SessionBoard.Proofs.App.Selection
import SessionBoard.Proofs.Table.Interval

namespace SessionBoard.AppState

variable {server : String} {tick : Nat} {now : Clock} {app app' : AppState} {move : Move}
  {past : List (AppState × Move)} {event : AppEvent} {effects : List Effect} {key : SessionId}
  {anchor cursor : CellPoint} {x y : Nat}

/-- The left button is pressed on the row of a session that is in view. -/
inductive Hits (app : AppState) : Move → SessionId → CellPoint → Prop
  | press {x y : Nat} {row : SessionRow} {point : CellPoint} (atRow : app.rowAt y = some row)
      (found : app.table.pointOn row x = .ok point) :
      Hits app (.event (.mouse ⟨.down .left, x, y⟩)) row.key point

/-- What ends a drag on the row of this session: the left button is pressed or released, or Escape is pressed,
or there comes a snapshot without the session. -/
def Move.Ends (key : SessionId) : Move → Prop
  | .event (.mouse event) => event.action ∈ [.down .left, .up .left]
  | .event (.key event) => event.key = .escape ∧ event.action = .press
  | .event (.store (.update snapshot)) => key ∉ idsOf snapshot
  | _ => False

/-- The point of the row of this session to which the pointer is dragged, on whatever line it is. -/
def draggedTo? (key : SessionId) : AppState × Move → Option CellPoint
  | (app, .event (.mouse ⟨.drag .left, x, _⟩)) =>
    (app.table.rows.find? (·.key = key)).bind fun row => (app.table.pointOn row x).toOption
  | _ => none

/-- A drag is under way. It began with a press at one point of a row, nothing has ended it since, and the pointer
was dragged to another point last. -/
def Drags (past : List (AppState × Move)) (key : SessionId) (anchor cursor : CellPoint) : Prop :=
  ∃ before pressed press between, past = before ++ (pressed, press) :: between ∧
    Hits pressed press key anchor ∧ (∀ moment ∈ between, ¬moment.2.Ends key) ∧
    (between.filterMap (draggedTo? key)).getLastD anchor = cursor

theorem getLastD_append_toList {τ : Type} (items : List τ) (last? : Option τ) (first : τ) :
    (items ++ last?.toList).getLastD first = last?.getD (items.getLastD first) := by
  cases last? with
  | none => rw [Option.toList_none, List.append_nil, Option.getD_none]
  | some last => exact List.getLastD_concat

/-- A drag begins now, or it was under way and is not ended. -/
theorem drags_next : Drags (past ++ [(app, move)]) key anchor cursor ↔
    app.Hits move key anchor ∧ anchor = cursor ∨
      ∃ earlier, Drags past key anchor earlier ∧ ¬move.Ends key ∧
        (draggedTo? key (app, move)).getD earlier = cursor := by
  constructor
  · rintro ⟨before, pressed, press, between, whole, hits, lasts, rfl⟩
    rcases split_next whole with ⟨rfl, same, rfl⟩ | ⟨shorter, rfl, rfl⟩
    · cases same
      exact .inl ⟨hits, rfl⟩
    · rw [List.forall_mem_append, List.forall_mem_singleton] at lasts
      refine .inr ⟨_, ⟨before, pressed, press, shorter, rfl, hits, lasts.1, rfl⟩, lasts.2, ?_⟩
      rw [filterMap_next, getLastD_append_toList]
  · rintro (⟨hits, rfl⟩ | ⟨_, ⟨before, pressed, press, between, rfl, hits, lasts, rfl⟩, onward, rfl⟩)
    · exact ⟨past, app, move, [], rfl, hits, by simp, rfl⟩
    · refine ⟨before, pressed, press, between ++ [(app, move)], by simp, hits, ?_, ?_⟩
      · rw [List.forall_mem_append, List.forall_mem_singleton]
        exact ⟨lasts, onward⟩
      · rw [filterMap_next, getLastD_append_toList]

def Move.IsPress : Move → Prop
  | .event (.mouse event) => event.action = .down .left
  | _ => False

theorem selection_of_press (framed : app.Framed)
    (updated : app.update (.mouse ⟨.down .left, x, y⟩) = .ok (app', effects)) :
    (∃ row point, app.rowAt y = some row ∧ app.table.pointOn row x = .ok point ∧
        app'.table.selection = .start row.key point) ∨
      app.rowAt y = none ∧ app'.table.selection = .cleared := by
  have presses := framed.pressesDrawn
  cases atRow : app.rowAt y with
  | none =>
    cases (presses.missed y atRow x).symm.trans updated
    exact .inr ⟨rfl, rfl⟩
  | some row =>
    obtain ⟨point, found, pressed⟩ := presses.pressed y row atRow x
    cases pressed.symm.trans updated
    exact .inl ⟨row, point, rfl, found, rfl⟩

/-- What a move other than a press makes of the selection, as far as there is a drag. The selection tells of the
drag that is under way: of the row that the press hit, of the point that it hit and of the point to which the
pointer was dragged last. -/
inductive Proceeds (app : AppState) (move : Move) : Selection → Prop
  | idle {selection : Selection} (before : app.table.selection.selecting = false)
      (after : selection.selecting = false) : Proceeds app move selection
  | ended {selection : Selection} {key : SessionId} (onRow : app.table.selection.rowKey = some key)
      (ends : move.Ends key) (after : selection.selecting = false) : Proceeds app move selection
  | onward {key : SessionId} (onRow : app.table.selection.rowKey = some key)
      (selecting : app.table.selection.selecting = true) (lasts : ¬move.Ends key) :
      Proceeds app move { app.table.selection with
        cursor := (draggedTo? key (app, move)).getD app.table.selection.cursor }

theorem proceeds_of_same (selects : app.table.Selects)
    (lasts : ∀ key, app.table.selection.rowKey = some key → ¬move.Ends key)
    (nowhere : ∀ key, draggedTo? key (app, move) = none) : app.Proceeds move app.table.selection := by
  cases selecting : app.table.selection.selecting with
  | false => exact .idle selecting selecting
  | true =>
    obtain ⟨key, onRow⟩ := Option.isSome_iff_exists.mp (selects.dragging selecting)
    have onward := Proceeds.onward onRow selecting (lasts key onRow)
    rwa [nowhere key] at onward

/-- A drag that is not under way cannot be ended, and it does not matter that this would do so. -/
theorem proceeds_of_ends {selection : Selection} (selects : app.table.Selects) (ends : ∀ key, move.Ends key)
    (after : selection.selecting = false) : app.Proceeds move selection := by
  cases selecting : app.table.selection.selecting with
  | false => exact .idle selecting after
  | true =>
    obtain ⟨key, onRow⟩ := Option.isSome_iff_exists.mp (selects.dragging selecting)
    exact .ended onRow (ends key) after

theorem proceeds_of_drag (sound : app.table.Sound)
    (updated : app.update (.mouse ⟨.drag .left, x, y⟩) = .ok (app', effects)) :
    app.Proceeds (.event (.mouse ⟨.drag .left, x, y⟩)) app'.table.selection := by
  obtain ⟨⟨table, effect⟩, moved, rest⟩ := Checked.bind_eq_ok.mp updated
  cases rest
  obtain ⟨dragged, found, same⟩ := Checked.bind_eq_ok.mp moved
  cases same
  cases selecting : app.table.selection.selecting with
  | false =>
    cases (TableState.onDrag_of_idle (.inl selecting)).symm.trans found
    exact .idle selecting selecting
  | true =>
    obtain ⟨key, onRow⟩ := Option.isSome_iff_exists.mp (sound.selects.dragging selecting)
    obtain ⟨row, member, rfl⟩ := List.mem_map.mp (sound.selects.present key onRow)
    have selected := sound.selectedRow?_eq member onRow
    obtain ⟨point, under⟩ := app.table.pointOn_answers row x
    cases (TableState.onDrag_of_selecting selecting selected under).symm.trans found
    have lasts : ¬(Move.event (.mouse ⟨.drag .left, x, y⟩)).Ends row.key := by simp [Move.Ends]
    have onward := Proceeds.onward onRow selecting lasts
    rw [TableState.selectedRow?, onRow] at selected
    rwa [draggedTo?, show app.table.rows.find? (·.key = row.key) = some row from selected, Option.bind_some,
      under] at onward

theorem finish_of_release (updated : app.update (.mouse ⟨.up .left, x, y⟩) = .ok (app', effects)) :
    app.table.selection.selecting = false ∧ app'.table = app.table ∧ effects = [] ∨
      app.table.selection.selecting = true ∧
        app'.table = { app.table with selection := app.table.selection.finish } ∧
        ∃ text?, app'.table.selectedText = .ok text? ∧ effects = (text?.map .copy).toList := by
  obtain ⟨⟨table, effect⟩, released, rest⟩ := Checked.bind_eq_ok.mp updated
  cases rest
  replace released : app.table.onRelease = .ok (table, effect) := released
  unfold TableState.onRelease at released
  cases selecting : app.table.selection.selecting with
  | false =>
    rw [selecting] at released
    cases released
    exact .inl ⟨rfl, rfl, rfl⟩
  | true =>
    rw [selecting] at released
    obtain ⟨text?, found, rest⟩ := Checked.bind_eq_ok.mp released
    cases rest
    exact .inr ⟨rfl, rfl, text?, found, rfl⟩

theorem proceeds_of_release (selects : app.table.Selects)
    (updated : app.update (.mouse ⟨.up .left, x, y⟩) = .ok (app', effects)) :
    app.Proceeds (.event (.mouse ⟨.up .left, x, y⟩)) app'.table.selection := by
  refine proceeds_of_ends selects (fun key => by simp [Move.Ends]) ?_
  rcases finish_of_release updated with ⟨idle, same, _⟩ | ⟨_, finished, _⟩
  · rw [same, idle]
  · rw [finished]
    rfl

theorem proceeds_of_escape {event : KeyEvent} (selects : app.table.Selects) (escape : event.key = .escape)
    (pressed : event.action = .press) (updated : app.update (.key event) = .ok (app', effects)) :
    app.Proceeds (.event (.key event)) app'.table.selection := by
  refine proceeds_of_ends selects (fun key => ⟨escape, pressed⟩) ?_
  simp only [update, onKey, pressed, escape] at updated
  cases updated
  rfl

theorem loses_iff {snapshot : Snapshot} (selects : app.table.Selects)
    (updated : app.update (.store (.update snapshot)) = .ok (app', effects)) :
    app.table.Loses app'.table ↔ ∃ key, app.table.selection.rowKey = some key ∧ key ∉ idsOf snapshot := by
  cases updated
  have listed := (app.table.lists_applySnapshot snapshot app.now).mem_keys_iff
  constructor
  · rintro ⟨row, _, onRow, gone⟩
    exact ⟨row.key, onRow, (listed row.key).not.mp gone⟩
  · rintro ⟨key, onRow, absent⟩
    obtain ⟨row, member, rfl⟩ := List.mem_map.mp (selects.present key onRow)
    exact ⟨row, member, onRow, (listed row.key).not.mpr absent⟩

/-- Whatever is not the left button or Escape leaves a drag alone, unless it is a snapshot without the row. -/
theorem proceeds_of_other (sound : app.table.Sound) (other : ¬event.OfPointer)
    (updated : app.update event = .ok (app', effects)) : app.Proceeds (.event event) app'.table.selection := by
  obtain ⟨cleared, spanned, stays, _, _⟩ := (turns_of_update updated).undisturbed sound other
  by_cases loses : ∃ snapshot, event = .store (.update snapshot) ∧ app.table.Loses app'.table
  · obtain ⟨snapshot, rfl, loses⟩ := loses
    obtain ⟨key, onRow, absent⟩ := (loses_iff sound.selects updated).mp loses
    rw [cleared snapshot rfl loses]
    exact .ended onRow absent rfl
  by_cases outdated : event = .tick ∧ ∃ text, app.table.Outdated app'.table text
  · obtain ⟨rfl, text, outdated⟩ := outdated
    rw [(spanned text rfl outdated).1]
    obtain ⟨_, _, _, _, _, lies, _⟩ := outdated
    exact .idle lies.finished lies.finished
  rw [stays loses outdated]
  refine proceeds_of_same sound.selects (fun key onRow ends => ?_) fun key => ?_
  · cases event with
    | mouse event => exact other (by simp_all [Move.Ends, AppEvent.OfPointer])
    | key event => exact other ends
    | store event =>
      cases event with
      | update snapshot => exact loses ⟨snapshot, rfl, (loses_iff sound.selects updated).mpr ⟨key, onRow, ends⟩⟩
      | _ => exact ends
    | _ => exact ends
  · unfold draggedTo?
    split
    · rename_i same
      cases same
      exact absurd (by simp [AppEvent.OfPointer]) other
    · rfl

theorem proceeds_of_move (sound : app.table.Sound) (other : ¬move.IsPress) (taken : app.move? move = some app') :
    app.Proceeds move app'.table.selection := by
  cases move with
  | drawn | quit =>
    cases taken
    exact proceeds_of_same sound.selects (fun _ _ => id) fun _ => rfl
  | event event =>
    obtain ⟨effects, updated⟩ := move?_event.mp taken
    by_cases own : event.OfPointer
    · cases event with
      | mouse event =>
        obtain ⟨action, x, y⟩ := event
        simp only [AppEvent.OfPointer, List.mem_cons, List.not_mem_nil, or_false] at own
        rcases own with rfl | rfl | rfl
        · exact absurd rfl other
        · exact proceeds_of_drag sound updated
        · exact proceeds_of_release sound.selects updated
      | key event => exact proceeds_of_escape sound.selects own.1 own.2 updated
      | _ => cases own
    · exact proceeds_of_other sound own updated

theorem eq_dragged_iff {selection : Selection} : selection = .dragged key anchor cursor ↔
    selection.rowKey = some key ∧ selection.selecting = true ∧ selection.anchor = anchor ∧
      selection.cursor = cursor := by
  obtain ⟨rowKey, first, last, selecting⟩ := selection
  have drag : Selection.dragged key anchor cursor = ⟨some key, anchor, cursor, true⟩ := rfl
  rw [drag, Selection.mk.injEq]
  tauto

theorem dragged_of_press (framed : app.Framed)
    (updated : app.update (.mouse ⟨.down .left, x, y⟩) = .ok (app', effects)) :
    app'.table.selection = .dragged key anchor cursor ↔
      app.Hits (.event (.mouse ⟨.down .left, x, y⟩)) key anchor ∧ anchor = cursor := by
  rcases selection_of_press framed updated with ⟨row, point, atRow, found, begun⟩ | ⟨missed, cleared⟩
  · rw [begun, eq_dragged_iff]
    constructor
    · rintro ⟨same, _, rfl, rfl⟩
      cases same
      exact ⟨.press atRow found, rfl⟩
    · rintro ⟨⟨atRow', found'⟩, rfl⟩
      cases atRow.symm.trans atRow'
      cases found.symm.trans found'
      exact ⟨rfl, rfl, rfl, rfl⟩
  · rw [cleared, eq_dragged_iff]
    refine ⟨nofun, ?_⟩
    rintro ⟨⟨atRow, _⟩, _⟩
    cases missed.symm.trans atRow

/-- The selection goes on as the drag does. -/
theorem dragged_next (sound : app.table.Sound) (framed : app.Framed) (taken : app.move? move = some app') :
    app'.table.selection = .dragged key anchor cursor ↔
      app.Hits move key anchor ∧ anchor = cursor ∨
        ∃ earlier, app.table.selection = .dragged key anchor earlier ∧ ¬move.Ends key ∧
          (draggedTo? key (app, move)).getD earlier = cursor := by
  by_cases press : move.IsPress
  · obtain ⟨⟨_, x, y⟩, rfl, rfl⟩ : ∃ event, move = .event (.mouse event) ∧ event.action = .down .left := by
      unfold Move.IsPress at press
      split at press
      · exact ⟨_, rfl, press⟩
      · cases press
    obtain ⟨effects, updated⟩ := move?_event.mp taken
    rw [dragged_of_press framed updated]
    -- A press begins a drag of its own or none, whatever drag there was.
    refine ⟨.inl, ?_⟩
    rintro (hits | ⟨_, _, lasts, _⟩)
    · exact hits
    · exact absurd (by simp [Move.Ends]) lasts
  · have nothing : ¬app.Hits move key anchor := by
      rintro ⟨_, _⟩
      exact press rfl
    have proceeds := proceeds_of_move sound press taken
    generalize app'.table.selection = selection at proceeds
    simp only [nothing, false_and, false_or, eq_dragged_iff]
    cases proceeds with
    | idle before after => simp [before, after]
    | ended onRow ends after =>
      rw [onRow, after]
      constructor
      · simp
      · rintro ⟨_, ⟨same, _⟩, lasts, _⟩
        cases same
        exact absurd ends lasts
    | onward onRow selecting lasts =>
      rw [onRow]
      constructor
      · rintro ⟨same, _, rfl, rfl⟩
        cases same
        exact ⟨_, ⟨rfl, selecting, rfl, rfl⟩, lasts, rfl⟩
      · rintro ⟨_, ⟨same, _, rfl, rfl⟩, _, rfl⟩
        cases same
        exact ⟨rfl, selecting, rfl, rfl⟩

/-- The selection tells of the drag that is under way and of no other. -/
theorem dragged_iff_drags (reach : Reach move? (start server tick now) past app) :
    app.table.selection = .dragged key anchor cursor ↔ Drags past key anchor cursor := by
  induction reach generalizing cursor with
  | start =>
    refine ⟨nofun, ?_⟩
    rintro ⟨before, _, _, _, whole, _⟩
    cases before <;> cases whole
  | next before taken ih =>
    rw [dragged_next (sound_of_reach before) (framed_of_reach before) taken, drags_next]
    simp only [ih]

end SessionBoard.AppState
