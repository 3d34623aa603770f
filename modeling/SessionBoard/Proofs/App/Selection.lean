import SessionBoard.Proofs.App.Moves
import SessionBoard.Proofs.Table.Selected

namespace SessionBoard

namespace AppEvent

/-- The left button of the mouse, or a press of Escape. -/
def OfPointer : AppEvent → Prop
  | .mouse event => event.action ∈ [.down .left, .drag .left, .up .left]
  | .key event => event.key = .escape ∧ event.action = .press
  | _ => False

/-- What can change the rows. -/
def OfRows : AppEvent → Prop
  | .tick | .store (.update _) => True
  | _ => False

end AppEvent

namespace AppState

variable {app app' : AppState} {event : AppEvent} {effects : List Effect} {table : TableState}

/-- What an event makes of the rows and of the selection. -/
inductive Turns (app : AppState) : AppEvent → TableState → Prop
  | tick : Turns app .tick (app.table.tick app.now).1
  | snapshot (snapshot : Snapshot) :
      Turns app (.store (.update snapshot)) (app.table.applySnapshot snapshot app.now).1
  | pointer {event : AppEvent} {selection : Selection} (own : event.OfPointer)
      (reselects : app.table.Reselects selection) :
      Turns app event { app.table with selection := selection }
  | view {event : AppEvent} {table : TableState} (other : ¬event.OfRows)
      (rows : table.rows = app.table.rows) (selection : table.selection = app.table.selection) :
      Turns app event table

theorem KeyStep.turns {event : KeyEvent} (step : app.KeyStep event app') :
    app.Turns (.key event) app'.table := by
  cases step with
  | nothing | notice => exact .view id rfl rfl
  | clear escape pressed => exact .pointer ⟨escape, pressed⟩ .cleared
  | scroll answered =>
    obtain ⟨offset, rfl⟩ := TableState.onKey_eq answered
    exact .view id rfl rfl

theorem turns_of_update (updated : app.update event = .ok (app', effects)) : app.Turns event app'.table := by
  cases event with
  | mouse event =>
    obtain ⟨⟨table, effect⟩, moved, rest⟩ := Checked.bind_eq_ok.mp updated
    cases rest
    rcases TableState.onMouse_eq moved with ⟨delta, rfl⟩ | rfl | ⟨left, selection, reselects, rfl⟩
    · exact .view id rfl rfl
    · exact .view id rfl rfl
    · exact .pointer left reselects
  | key event => exact (keyStep_of_update updated).turns
  | tick =>
    cases updated
    exact .tick
  | frame width height now =>
    cases updated
    unfold onFrame
    dsimp only
    split <;> exact .view id rfl rfl
  | store event =>
    cases updated
    cases event with
    | update snapshot => exact .snapshot snapshot
    | active | inactive => exact .view id rfl rfl
  | _ =>
    cases updated
    exact .view id rfl rfl

theorem Turns.sound (turns : app.Turns event table) (sound : app.table.Sound) : table.Sound := by
  cases turns with
  | tick => exact sound.tick app.now
  | snapshot snapshot => exact sound.applySnapshot snapshot app.now
  | pointer _ reselects => exact sound.reselect reselects
  | view _ rows selection => exact sound.of_same rows selection

theorem sound_of_reach {server : String} {tick : Nat} {now : Clock} {past : List (AppState × Move)}
    (reach : Reach move? (start server tick now) past app) : app.table.Sound := by
  refine reach.invariant (fun app => app.table.Sound) (TableState.sound_start now tick)
    fun app move app' sound taken => ?_
  cases move with
  | event event =>
    obtain ⟨effects, updated⟩ := move?_event.mp taken
    exact (turns_of_update updated).sound sound
  | drawn | quit =>
    cases taken
    exact sound

/-- What becomes of the selection by an event that is not the viewer's. -/
structure Undisturbed (app : AppState) (event : AppEvent) (table : TableState) : Prop where
  cleared : ∀ snapshot, event = .store (.update snapshot) → app.table.Loses table →
    table.selection = .cleared
  spanned : ∀ text, event = .tick → app.table.Outdated table text →
    table.selection = app.table.selection.whole Column.uptime text.length ∧
      table.selectedText = .ok (some text)
  /-- There is no other case. -/
  stays : ¬(∃ snapshot, event = .store (.update snapshot) ∧ app.table.Loses table) →
    ¬(event = .tick ∧ ∃ text, app.table.Outdated table text) → table.selection = app.table.selection
  /-- What is selected changes with the text of the row and with nothing else. -/
  text_stays : table.selectedRow?.map SessionRow.cells = app.table.selectedRow?.map SessionRow.cells →
    table.selectedText = app.table.selectedText
  view : ¬event.OfRows → table.rows = app.table.rows ∧ table.selectedText = app.table.selectedText

theorem Turns.undisturbed (turns : app.Turns event table) (sound : app.table.Sound)
    (other : ¬event.OfPointer) : app.Undisturbed event table := by
  cases turns with
  | tick =>
    by_cases outdated : ∃ text, app.table.Outdated (app.table.tick app.now).1 text
    · refine ⟨nofun, fun text _ => sound.selection_of_outdated, fun _ still => ?_, fun same => ?_,
        fun rows => absurd trivial rows⟩
      · exact absurd ⟨rfl, outdated⟩ still
      · obtain ⟨text, outdated⟩ := outdated
        exact absurd same (sound.cells_of_outdated outdated)
    · have same := sound.selection_of_not_outdated (not_exists.mp outdated)
      refine ⟨nofun, fun text _ now => absurd ⟨text, now⟩ outdated, fun _ _ => same,
        fun cells => TableState.selectedText_of_same cells same, fun rows => absurd trivial rows⟩
  | snapshot snapshot =>
    by_cases loses : app.table.Loses (app.table.applySnapshot snapshot app.now).1
    · have cleared := TableState.selection_of_loses sound.keys_nodup loses
      refine ⟨fun _ _ _ => cleared, nofun, fun still => absurd ⟨snapshot, rfl, loses⟩ still,
        fun same => absurd same (sound.cells_of_loses loses cleared), fun rows => absurd trivial rows⟩
    · have same := sound.selection_of_not_loses loses
      refine ⟨fun _ _ gone => absurd gone loses, nofun, fun _ _ => same,
        fun cells => TableState.selectedText_of_same cells same, fun rows => absurd trivial rows⟩
  | pointer own => exact absurd own other
  | view notRows rows selection =>
    refine ⟨?_, ?_, fun _ _ => selection, fun cells => TableState.selectedText_of_same cells selection,
      fun _ => ⟨rows, TableState.selectedText_of_same ?_ selection⟩⟩
    · rintro snapshot rfl
      exact absurd trivial notRows
    · rintro text rfl
      exact absurd trivial notRows
    · simp only [TableState.selectedRow?, rows, selection]

/-- In every state the selection is on a row of the table, and nothing that happens moves it but the left
button, Escape, a snapshot without its row and a tick that renews the uptime in which it lies. -/
theorem selection_undisturbed {server : String} {tick : Nat} {now : Clock} {past : List (AppState × Move)}
    (reach : Reach move? (start server tick now) past app) :
    app.table.Selects ∧ ∀ event, ¬event.OfPointer →
      ∃ app' effects, app.update event = .ok (app', effects) ∧ app.Undisturbed event app'.table := by
  have sound := sound_of_reach reach
  refine ⟨sound.selects, fun event other => ?_⟩
  obtain ⟨⟨app', effects⟩, updated⟩ := app.update_answers event
  exact ⟨app', effects, updated, (turns_of_update updated).undisturbed sound other⟩

/-- The first digit of an uptime is selected and the terminal gets narrower. The next tick selects the whole
new uptime, and a snapshot without the row clears the selection. -/
theorem selection_undisturbed_in_uptime :
    ∃ past app, Reach move? (start "server" 100 ⟨0, 1234000⟩) past app ∧
      app.table.selectedText = .ok (some ['1']) ∧
      app.onTick.table.selectedText = .ok (some "1\u2009334".toList) ∧
      (app.onStore (.update [.plain "b" .waiting 0])).table.selection = .cleared ∧
      app.table.Selects ∧ ∀ event, ¬event.OfPointer →
        ∃ app' effects, app.update event = .ok (app', effects) ∧ app.Undisturbed event app'.table := by
  have reach : Reach move? (start "server" 100 ⟨0, 1234000⟩) _ _ :=
    .of_moves [.event (.frame 100 10 ⟨0, 1234000⟩),
      .event (.store (.update [.plain "a" .waiting 0, .plain "b" .waiting 0])),
      .event (.mouse ⟨.down .left, 85, 2⟩), .event (.mouse ⟨.drag .left, 86, 2⟩),
      .event (.mouse ⟨.up .left, 86, 2⟩), .event (.frame 80 10 ⟨100000, 1334000⟩)] (by decide +kernel)
  exact ⟨_, _, reach, by decide +kernel, by decide +kernel, by decide +kernel, selection_undisturbed reach⟩

end AppState

end SessionBoard
