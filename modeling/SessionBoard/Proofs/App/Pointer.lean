import SessionBoard.Proofs.App.Moves
import SessionBoard.Proofs.Table.Pointer

namespace SessionBoard

theorem Screen.bodyLineAt_eq_some {screen : Screen} {y line : Nat} :
    screen.bodyLineAt y = some line ↔ y = screen.body.y + line ∧ line < screen.body.height := by
  unfold bodyLineAt Area.bottom
  split
  · rw [Option.some.injEq]
    omega
  · simp only [reduceCtorEq, false_iff]
    omega

namespace AppState

variable {app app' : AppState} {event : AppEvent} {effects : List Effect} {x y : Nat} {row : SessionRow}

/-- The table has the view that the screen has for it, whatever has happened to the board. -/
structure Framed (app : AppState) : Prop where
  width : app.table.width = app.screen.body.width
  height : app.table.viewportHeight = app.screen.body.height
  screen : ∃ width height, app.screen = .ofSize width height

theorem framed_start (server : String) (tick : Nat) (now : Clock) : (start server tick now).Framed :=
  ⟨rfl, rfl, 0, 0, rfl⟩

theorem Framed.of_same (framed : app.Framed) (screen : app'.screen = app.screen)
    (width : app'.table.width = app.table.width)
    (height : app'.table.viewportHeight = app.table.viewportHeight) : app'.Framed := by
  obtain ⟨sameWidth, sameHeight, size⟩ := framed
  exact ⟨by rw [width, screen, sameWidth], by rw [height, screen, sameHeight], by rwa [screen]⟩

theorem Framed.update (framed : app.Framed) (updated : app.update event = .ok (app', effects)) :
    app'.Framed := by
  cases event with
  | mouse event =>
    obtain ⟨⟨table, effect⟩, moved, rest⟩ := Checked.bind_eq_ok.mp updated
    cases rest
    rcases TableState.onMouse_eq moved with ⟨delta, rfl⟩ | rfl | ⟨_, selection, _, rfl⟩
    all_goals exact framed.of_same rfl rfl rfl
  | key event =>
    cases keyStep_of_update updated with
    | nothing => exact framed
    | notice | clear => exact framed.of_same rfl rfl rfl
    | scroll answered =>
      obtain ⟨offset, rfl⟩ := TableState.onKey_eq answered
      exact framed.of_same rfl rfl rfl
  | frame width height now =>
    cases updated
    unfold onFrame
    dsimp only
    split
    · exact framed.of_same rfl rfl rfl
    · exact ⟨rfl, rfl, width, height, rfl⟩
  | store event =>
    cases updated
    cases event <;> exact framed.of_same rfl rfl rfl
  | _ =>
    cases updated
    exact framed.of_same rfl rfl rfl

theorem framed_of_reach {server : String} {tick : Nat} {now : Clock} {past : List (AppState × Move)}
    (reach : Reach move? (start server tick now) past app) : app.Framed := by
  refine reach.invariant Framed (framed_start server tick now) fun app move app' framed taken => ?_
  cases move with
  | event event =>
    obtain ⟨effects, updated⟩ := move?_event.mp taken
    exact framed.update updated
  | drawn | quit =>
    cases taken
    exact framed.of_same rfl rfl rfl

/-- The row of the table on a line of the screen. -/
def rowAt (app : AppState) (y : Nat) : Option SessionRow :=
  (app.screen.bodyLineAt y).bind app.table.rowOn

/-- A press selects on the row that is drawn under the pointer, and clears the selection elsewhere. -/
structure PressesDrawn (app : AppState) : Prop where
  drawn : ∀ y row, app.rowAt y = some row → ∃ lines, app.draw = .ok lines ∧
    lines[y]? = some (drawSpans app.screen.body.width (app.table.rowSpans row))
  pressed : ∀ y row, app.rowAt y = some row → ∀ x, ∃ point, app.table.pointOn row x = .ok point ∧
    app.update (.mouse ⟨.down .left, x, y⟩) =
      .ok ({ app with table := { app.table with selection := .start row.key point } }.dirtyIf true, [])
  missed : ∀ y, app.rowAt y = none → ∀ x, app.update (.mouse ⟨.down .left, x, y⟩) =
    .ok ({ app with table := { app.table with selection := .cleared } }.dirtyIf true, [])

theorem update_of_onPress {table : TableState} (pressed : app.table.onPress app.screen x y = .ok table) :
    app.update (.mouse ⟨.down .left, x, y⟩) = .ok ({ app with table := table }.dirtyIf true, []) := by
  simp only [update, onMouse, TableState.onMouse, pressed, bind, Except.bind]
  rfl

/-- There is no hint in the place of a row. -/
theorem drawBody_of_row {line : Nat} (onLine : app.table.rowOn line = some row) :
    app.drawBody = app.table.draw app.screen.body.width app.screen.body.height := by
  have some_row : app.table.isEmpty = false := by
    unfold TableState.rowOn at onLine
    split at onLine
    · rw [TableState.isEmpty, List.isEmpty_eq_false_iff]
      exact List.ne_nil_of_mem (List.mem_of_getElem? onLine)
    · cases onLine
  have none : tip? app.header.activity false = none := by
    cases app.header.activity <;> rfl
  rw [drawBody, some_row, none]

theorem draw_of_body {body : List (List Cell)} (drawn : app.drawBody = .ok body) : app.draw =
    .ok (List.replicate app.screen.header.height (drawSpans app.screen.header.width app.header.spans) ++
      List.replicate app.screen.titles.height (drawSpans app.screen.titles.width app.table.titleSpans) ++
      body ++ List.replicate app.screen.status.height
        (drawSpans app.screen.status.width (app.status.spans app.screen.status.width))) := by
  rw [draw, drawn]
  rfl

/-- The lines of the body stand below the header and the titles. -/
theorem getElem?_draw (framed : app.Framed) {body : List (List Cell)} (drawn : app.drawBody = .ok body)
    {line : Nat} (bound : line < body.length) : ∃ lines, app.draw = .ok lines ∧
      lines[app.screen.body.y + line]? = body[line]? := by
  obtain ⟨width, height, size⟩ := framed.screen
  have above : app.screen.body.y = app.screen.header.height + app.screen.titles.height := by
    rw [size]
    simp only [Screen.ofSize, Area.bottom, Nat.zero_add]
  refine ⟨_, draw_of_body drawn, ?_⟩
  rw [List.getElem?_append_left, List.getElem?_append_right]
  · rw [List.length_append, List.length_replicate, List.length_replicate, ← above, Nat.add_sub_cancel_left]
  · rw [List.length_append, List.length_replicate, List.length_replicate]
    omega
  · rw [List.length_append, List.length_append, List.length_replicate, List.length_replicate]
    omega

theorem Framed.pressesDrawn (framed : app.Framed) : app.PressesDrawn where
  drawn := by
    intro y row atY
    obtain ⟨line, onScreen, onLine⟩ := Option.bind_eq_some_iff.mp atY
    obtain ⟨rfl, bound⟩ := Screen.bodyLineAt_eq_some.mp onScreen
    rw [← framed.height] at bound
    obtain ⟨body, drawn, atLine⟩ := app.table.getElem?_draw app.screen.body.width bound
    rw [onLine] at atLine
    obtain ⟨inside, _⟩ := List.getElem?_eq_some_iff.mp atLine
    rw [framed.height, ← drawBody_of_row onLine] at drawn
    obtain ⟨lines, whole, same⟩ := getElem?_draw framed drawn inside
    exact ⟨lines, whole, same.trans atLine⟩
  pressed := by
    intro y row atY x
    obtain ⟨line, onScreen, onLine⟩ := Option.bind_eq_some_iff.mp atY
    obtain ⟨point, found, hit⟩ := TableState.hitTest_of_rowOn onLine x
    refine ⟨point, found, update_of_onPress ?_⟩
    simp only [TableState.onPress, onScreen, hit, bind, Except.bind]
    rfl
  missed := by
    intro y nothing x
    refine update_of_onPress ?_
    cases onScreen : app.screen.bodyLineAt y with
    | none =>
      simp only [TableState.onPress, onScreen, bind, Except.bind]
      rfl
    | some line =>
      rw [rowAt, onScreen, Option.bind_some] at nothing
      simp only [TableState.onPress, onScreen, TableState.hitTest_of_rowOn_none nothing x, bind, Except.bind]
      rfl

end AppState

/-- The pointer hits what is drawn under it and keeps to its order, in every table, and a press on the screen
goes to the row that is drawn there. -/
theorem TableState.points_at_drawn (table : TableState) :
    table.PointsAtDrawn ∧ ∀ {server : String} {tick : Nat} {now : Clock}
      {past : List (AppState × AppState.Move)} {app : AppState},
      Reach AppState.move? (.start server tick now) past app → app.table = table → app.PressesDrawn :=
  ⟨table.pointsAtDrawn, fun reach _ => (AppState.framed_of_reach reach).pressesDrawn⟩

/-- Two of four rows fit on the screen, and the table is scrolled to the last two of them. -/
theorem TableState.points_at_drawn_scrolled :
    ∃ past app, Reach AppState.move? (.start "server" 100 ⟨0, 0⟩) past app ∧
      (app.rowAt 1).map SessionRow.key = none ∧ (app.rowAt 2).map SessionRow.key = some ⟨"c"⟩ ∧
      (app.rowAt 3).map SessionRow.key = some ⟨"d"⟩ ∧ (app.rowAt 4).map SessionRow.key = none ∧
      app.table.PointsAtDrawn ∧ app.PressesDrawn := by
  have reach : Reach AppState.move? (.start "server" 100 ⟨0, 0⟩) _ _ :=
    .of_moves [.event (.frame 100 5 ⟨0, 0⟩),
      .event (.store (.update [.plain "a" .waiting 0, .plain "b" .waiting 0, .plain "c" .waiting 0,
        .plain "d" .waiting 0])),
      .event (.key { key := .bottom })] (by decide +kernel)
  exact ⟨_, _, reach, by decide +kernel, by decide +kernel, by decide +kernel, by decide +kernel,
    (points_at_drawn _).1, (points_at_drawn _).2 reach rfl⟩

end SessionBoard
