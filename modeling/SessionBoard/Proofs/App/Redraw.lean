import SessionBoard.Proofs.App.Moves
import SessionBoard.Proofs.Table.Upkeep

namespace SessionBoard

theorem StatusLine.expire_eq_self {status : StatusLine} {now : Nat}
    (unchanged : (status.expire now).2 = false) : (status.expire now).1 = status := by
  unfold expire at unchanged ⊢
  split
  · rename_i notice shown
    split
    · rename_i expired
      simp [shown, expired] at unchanged
    · rfl
  · rfl

theorem HeaderState.apply_eq_self {header : HeaderState} {event : StoreEvent}
    (unchanged : (header.apply event).2 = false) : (header.apply event).1 = header := by
  simpa [apply] using unchanged

namespace AppState

variable {app app' app'' : AppState} {event : AppEvent} {effects : List Effect}

/-- The state without what is never drawn. -/
def picture (app : AppState) : AppState :=
  { app with shouldQuit := false, needsRender := false, now := default, table := app.table.picture }

theorem picture_eq (screen : app'.screen = app.screen) (header : app'.header = app.header)
    (table : app'.table.picture = app.table.picture) (status : app'.status = app.status) :
    app'.picture = app.picture := by
  simp only [picture, screen, header, table, status]

/-- Nothing is drawn that cannot be seen. -/
theorem draw_picture (app : AppState) : app.picture.draw = app.draw := by
  have isEmpty : app.table.picture.isEmpty = app.table.isEmpty := by
    simp only [TableState.isEmpty, TableState.picture, List.isEmpty_map]
  have body : app.picture.drawBody = app.drawBody := by
    simp only [drawBody, picture, isEmpty, TableState.draw_picture]
  simp only [draw, body]
  simp only [picture, TableState.titleSpans_picture]

/-- The second state comes after the first one, and what has changed on the way is drawn in time: either a
drawing is due, or the screen would be drawn as before. -/
structure Follows (app app' : AppState) : Prop where
  kept : app.table.Kept → app'.table.Kept
  /-- A drawing that is due stays due. -/
  due : app.needsRender → app'.needsRender
  /-- Where no drawing is due nothing has changed that can be seen. -/
  same : app.table.Kept → app'.needsRender = false → app'.picture = app.picture

namespace Follows

theorem refl (app : AppState) : Follows app app :=
  ⟨id, id, fun _ _ => rfl⟩

/-- No drawing was due before where none is due after. -/
theorem clean_before (follows : Follows app app') (clean : app'.needsRender = false) :
    app.needsRender = false := by
  rw [Bool.eq_false_iff] at clean ⊢
  exact mt follows.due clean

theorem trans (first : Follows app app') (second : Follows app' app'') : Follows app app'' where
  kept := second.kept ∘ first.kept
  due := second.due ∘ first.due
  same := by
    intro kept clean
    rw [second.same (first.kept kept) clean, first.same kept (second.clean_before clean)]

theorem draw_eq (follows : Follows app app') (kept : app.table.Kept) (clean : app'.needsRender = false) :
    app'.draw = app.draw := by
  rw [← app'.draw_picture, follows.same kept clean, draw_picture]

/-- A change that cannot be seen. -/
theorem unseen (due : app'.needsRender = app.needsRender) (kept : app.table.Kept → app'.table.Kept)
    (same : app.table.Kept → app'.picture = app.picture) : Follows app app' :=
  ⟨kept, fun before => due.trans before, fun kept _ => same kept⟩

/-- A change that is reported if it can be seen. -/
theorem dirtyIf {changed : Bool} (due : app'.needsRender = app.needsRender)
    (kept : app.table.Kept → app'.table.Kept)
    (same : app.table.Kept → changed = false → app'.picture = app.picture) :
    Follows app (app'.dirtyIf changed) where
  kept := kept
  due := by
    intro before
    simp only [AppState.dirtyIf, due, before, Bool.true_or]
  same := by
    intro kept clean
    exact same kept (Bool.or_eq_false_iff.mp clean).2

/-- A change after which a drawing is due in any case. -/
theorem dirty (kept : app.table.Kept → app'.table.Kept) : Follows app (app'.dirtyIf true) where
  kept := kept
  due := fun _ => Bool.or_true _
  same := by
    intro _ clean
    simp [AppState.dirtyIf] at clean

end Follows

theorem follows_notify (app : AppState) (kind : NoticeKind) (text : String) :
    Follows app (app.notify kind text) :=
  .dirty id

theorem follows_onTick (app : AppState) : Follows app app.onTick := by
  refine .dirtyIf rfl (fun kept => kept.tick app.now) fun _ unchanged => ?_
  obtain ⟨still, pending⟩ := Bool.or_eq_false_iff.mp unchanged
  exact picture_eq rfl rfl (TableState.picture_tick still) (StatusLine.expire_eq_self pending)

theorem follows_onFrame (app : AppState) (width height : Nat) (now : Clock) :
    Follows app (app.onFrame width height now) := by
  unfold onFrame
  dsimp only
  split
  · exact .unseen rfl id fun _ => rfl
  · exact .dirty fun kept => kept.setViewport _ _

theorem follows_onStore (app : AppState) (event : StoreEvent) : Follows app (app.onStore event) := by
  -- The header and the table report their changes one after the other.
  have header : Follows app
      ({ app with header := (app.header.apply event).1 }.dirtyIf (app.header.apply event).2) := by
    refine .dirtyIf rfl id fun _ unchanged => ?_
    exact picture_eq rfl (HeaderState.apply_eq_self unchanged) rfl rfl
  refine header.trans ?_
  cases event with
  | update snapshot =>
    refine .dirtyIf rfl (fun _ => TableState.kept_applySnapshot ..) fun kept unchanged => ?_
    rw [Bool.not_eq_false'] at unchanged
    exact picture_eq rfl rfl (TableState.picture_applySnapshot kept unchanged) rfl
  | active => exact .refl _
  | inactive => exact .refl _

theorem KeyStep.follows {event : KeyEvent} (step : app.KeyStep event app') : Follows app app' := by
  cases step with
  | nothing => exact .refl app
  | notice kind text => exact app.follows_notify kind text
  | clear => exact .dirty fun kept => kept.withSelection .cleared
  | scroll answered => exact .dirty fun kept => kept.onKey answered

/-- Whatever the event, a change that can be seen makes a drawing due. -/
theorem follows_update (updated : app.update event = .ok (app', effects)) : Follows app app' := by
  cases event with
  | mouse event =>
    obtain ⟨⟨table, effect⟩, moved, rest⟩ := Checked.bind_eq_ok.mp updated
    cases rest
    exact .dirty fun kept => kept.onMouse moved
  | tick =>
    cases updated
    exact app.follows_onTick
  | frame width height now =>
    cases updated
    exact app.follows_onFrame width height now
  | key event => exact (keyStep_of_update updated).follows
  | resize =>
    cases updated
    exact .dirty id
  | ignored =>
    cases updated
    exact .refl app
  | store event =>
    cases updated
    exact app.follows_onStore event
  | copied chars =>
    cases updated
    exact app.follows_notify _ _
  | copyFailed message =>
    cases updated
    exact app.follows_notify _ _

theorem kept_of_move {move : Move} (taken : app.move? move = some app') :
    app.table.Kept → app'.table.Kept := by
  cases move with
  | event event =>
    obtain ⟨effects, updated⟩ := move?_event.mp taken
    exact (follows_update updated).kept
  | drawn | quit =>
    cases taken
    exact id

theorem kept_of_reach {server : String} {tick : Nat} {now : Clock} {past : List (AppState × Move)}
    (reach : Reach move? (start server tick now) past app) : app.table.Kept :=
  reach.invariant (fun app => app.table.Kept) (TableState.kept_start now tick)
    fun _ _ _ kept taken => kept_of_move taken kept

end AppState

end SessionBoard
