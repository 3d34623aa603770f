import SessionBoard.App.Drawing
import SessionBoard.Proofs.Reach
import SessionBoard.Proofs.Table.Bounds

namespace SessionBoard.AppState

open Checked (Answers)

variable {app app' : AppState}

/-- Everything that can happen to the state of the board, in any order. There is an answer to every event, and
every state can be drawn. -/
inductive Move
  | event (event : AppEvent)
  /-- The screen is drawn. -/
  | drawn
  /-- The loop is told to end. -/
  | quit

def move? (app : AppState) : Move → Option AppState
  | .event event => (app.update event).toOption.map Prod.fst
  | .drawn => some { app with needsRender := false }
  | .quit => some { app with shouldQuit := true }

theorem move?_event {event : AppEvent} :
    app.move? (.event event) = some app' ↔ ∃ effects, app.update event = .ok (app', effects) := by
  simp only [move?, Option.map_eq_some_iff, Checked.toOption_eq_some]
  constructor
  · rintro ⟨⟨_, effects⟩, updated, rfl⟩
    exact ⟨effects, updated⟩
  · rintro ⟨effects, updated⟩
    exact ⟨(app', effects), updated, rfl⟩

/-- What a key does to the board. -/
inductive KeyStep (app : AppState) (event : KeyEvent) : AppState → Prop
  | nothing : KeyStep app event app
  | notice (kind : NoticeKind) (text : String) : KeyStep app event (app.notify kind text)
  | clear (escape : event.key = .escape) (pressed : event.action = .press) :
      KeyStep app event ({ app with table := { app.table with selection := .cleared } }.dirtyIf true)
  | scroll {table : TableState} (answered : app.table.onKey event.key = some table) :
      KeyStep app event ({ app with table := table }.dirtyIf true)

theorem onKey_step (app : AppState) (event : KeyEvent) : app.KeyStep event (app.onKey event).1 := by
  unfold onKey
  split
  · exact .nothing
  rename_i pressed
  split
  · exact .nothing
  split
  · exact .notice _ _
  split
  · exact .clear ‹_› (Decidable.not_not.mp pressed)
  split
  · exact .scroll ‹_›
  · exact .nothing

theorem keyStep_of_update {event : KeyEvent} {effects : List Effect}
    (updated : app.update (.key event) = .ok (app', effects)) : app.KeyStep event app' := by
  have answered : (app.onKey event).1 = app' := congrArg Prod.fst (Except.ok.inj updated)
  exact answered ▸ app.onKey_step event

theorem update_answers (app : AppState) (event : AppEvent) : (app.update event).Answers := by
  cases event with
  | mouse event => exact .bind (app.table.onMouse_answers app.screen event) fun moved _ => .ok _
  | _ => exact .ok _

theorem draw_answers (app : AppState) : app.draw.Answers := by
  have body : app.drawBody.Answers := by
    unfold drawBody
    split
    · exact .ok _
    · exact ⟨_, app.table.draw_eq _ _⟩
  exact .bind body fun lines _ => .ok _

end SessionBoard.AppState
