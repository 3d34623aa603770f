import SessionBoard.Dashboard
import SessionBoard.Proofs.App.Redraw
import SessionBoard.Proofs.Store.History

namespace SessionBoard

namespace Dashboard

variable {dashboard dashboard' : Dashboard}

inductive Move
  | store (move : LiveStore.Move)
  | forward
  /-- It is settled what the next attempts to copy come to. -/
  | copying (outcomes : List (Option String))
  | round (round : Round)

def move? (dashboard : Dashboard) : Move → Option Dashboard
  | .store move => (dashboard.store.move? move).map fun store => { dashboard with store := store }
  | .forward => dashboard.forward?
  | .copying outcomes => some { dashboard with clipboard := outcomes }
  | .round round => (dashboard.step round).toOption

/-- Nothing was drawn, and whatever has changed is drawn in time. -/
structure Reacts (dashboard dashboard' : Dashboard) : Prop where
  follows : AppState.Follows dashboard.app dashboard'.app
  shown : dashboard'.shown = dashboard.shown

theorem Reacts.refl (dashboard : Dashboard) : Reacts dashboard dashboard :=
  ⟨.refl _, rfl⟩

theorem Reacts.trans {dashboard'' : Dashboard} (first : Reacts dashboard dashboard')
    (second : Reacts dashboard' dashboard'') : Reacts dashboard dashboard'' :=
  ⟨first.follows.trans second.follows, second.shown.trans first.shown⟩

theorem foldlM_reacts {α : Type} {f : Dashboard → α → Checked Dashboard}
    (each : ∀ dashboard item, ∃ dashboard', f dashboard item = .ok dashboard' ∧
      Reacts dashboard dashboard') (items : List α) (dashboard : Dashboard) :
    ∃ dashboard', items.foldlM f dashboard = .ok dashboard' ∧ Reacts dashboard dashboard' := by
  induction items generalizing dashboard with
  | nil => exact ⟨dashboard, rfl, .refl dashboard⟩
  | cons item items ih =>
    obtain ⟨next, first, reacts⟩ := each dashboard item
    obtain ⟨last, rest, later⟩ := ih next
    exact ⟨last, by rw [List.foldlM_cons, first]; exact rest, reacts.trans later⟩

theorem copyText_reacts (dashboard : Dashboard) (text : List Char) :
    Reacts dashboard (dashboard.copyText text).1 := by
  unfold copyText
  dsimp only
  split <;> exact ⟨.refl _, rfl⟩

theorem perform_reacts (dashboard : Dashboard) (effect : Effect) :
    ∃ dashboard', dashboard.perform effect = .ok dashboard' ∧ Reacts dashboard dashboard' := by
  cases effect with
  | quit => exact ⟨_, rfl, .unseen rfl id fun _ => rfl, rfl⟩
  | refresh => exact ⟨_, rfl, .refl _, rfl⟩
  | copy text =>
    have copied := dashboard.copyText_reacts text
    obtain ⟨⟨app, effects⟩, updated⟩ :=
      (dashboard.copyText text).1.app.update_answers (dashboard.copyText text).2
    refine ⟨{ (dashboard.copyText text).1 with app := app }, ?_,
      copied.follows.trans (AppState.follows_update updated), copied.shown⟩
    simp only [perform, updated]
    rfl

theorem react_reacts (dashboard : Dashboard) (event : AppEvent) :
    ∃ dashboard', dashboard.react event = .ok dashboard' ∧ Reacts dashboard dashboard' := by
  obtain ⟨⟨app, effects⟩, updated⟩ := dashboard.app.update_answers event
  obtain ⟨last, performed, reacts⟩ :=
    foldlM_reacts perform_reacts effects { dashboard with app := app }
  refine ⟨last, ?_, (AppState.follows_update updated).trans reacts.follows, reacts.shown⟩
  simp only [react, updated]
  exact performed

/-- The screen shows the state unless a drawing is due. -/
structure UpToDate (dashboard : Dashboard) : Prop where
  kept : dashboard.app.table.Kept
  drawn : dashboard.app.needsRender = false → dashboard.app.draw = .ok dashboard.shown

theorem UpToDate.reacts (upToDate : dashboard.UpToDate) (reacts : Reacts dashboard dashboard') :
    dashboard'.UpToDate where
  kept := reacts.follows.kept upToDate.kept
  drawn := by
    intro clean
    rw [reacts.shown, reacts.follows.draw_eq upToDate.kept clean,
      upToDate.drawn (reacts.follows.clean_before clean)]

theorem UpToDate.redraw (upToDate : dashboard.UpToDate) :
    ∃ dashboard', dashboard.redraw = .ok dashboard' ∧ dashboard'.UpToDate ∧
      dashboard'.app.draw = .ok dashboard'.shown := by
  unfold Dashboard.redraw
  split
  · obtain ⟨lines, drawn⟩ := dashboard.app.draw_answers
    refine ⟨{ dashboard with shown := lines, app := { dashboard.app with needsRender := false } },
      ?_, ⟨upToDate.kept, fun _ => drawn⟩, drawn⟩
    simp only [drawn]
    rfl
  · rename_i clean
    exact ⟨dashboard, rfl, upToDate, upToDate.drawn (Bool.not_eq_true _ ▸ clean)⟩

theorem UpToDate.step (upToDate : dashboard.UpToDate) (round : Round) :
    ∃ dashboard', dashboard.step round = .ok dashboard' ∧ dashboard'.UpToDate ∧
      (dashboard.app.shouldQuit = false → dashboard'.app.draw = .ok dashboard'.shown) := by
  unfold Dashboard.step
  split
  · rename_i quit
    exact ⟨dashboard, rfl, upToDate, fun goesOn => (Bool.eq_false_iff.mp goesOn quit).elim⟩
  · obtain ⟨middle, reduced, reacts⟩ :=
      foldlM_reacts react_reacts (dashboard.roundEvents round) { dashboard with inbox := [] }
    have atStart : { dashboard with inbox := [] }.UpToDate := ⟨upToDate.kept, upToDate.drawn⟩
    obtain ⟨last, redrawn, after, shows⟩ := (atStart.reacts reacts).redraw
    refine ⟨last, ?_, after, fun _ => shows⟩
    simp only [reduced]
    exact redrawn

theorem upToDate_ofStore (store : LiveStore) (server : String) (tick : Nat) (now : Clock) :
    (ofStore store server tick now).UpToDate where
  kept := TableState.kept_start now tick
  drawn := by
    intro clean
    cases clean

theorem UpToDate.move {move : Move} (upToDate : dashboard.UpToDate)
    (taken : dashboard.move? move = some dashboard') : dashboard'.UpToDate := by
  cases move with
  | store move =>
    obtain ⟨store, _, rfl⟩ := Option.map_eq_some_iff.mp taken
    exact ⟨upToDate.kept, upToDate.drawn⟩
  | forward =>
    obtain ⟨⟨event, board⟩, _, same⟩ := Option.bind_eq_some_iff.mp taken
    cases same
    exact ⟨upToDate.kept, upToDate.drawn⟩
  | copying outcomes =>
    cases taken
    exact ⟨upToDate.kept, upToDate.drawn⟩
  | round round =>
    obtain ⟨after, stepped, upToDate', _⟩ := upToDate.step round
    cases stepped.symm.trans (Checked.toOption_eq_some.mp taken)
    exact upToDate'

/-- Whatever happened to the state of a board, an event after which no drawing is due leaves the screen
as it would be drawn; and whatever happened to a board on a terminal, a round of its loop comes to an
end at which the screen shows the state. -/
theorem shown_in_time (store : LiveStore) (server : String) (tick : Nat) (now : Clock) :
    (∀ past app, Reach AppState.move? (.start server tick now) past app → ∀ event,
      ∃ app' effects lines, app.update event = .ok (app', effects) ∧ app.draw = .ok lines ∧
        (app.needsRender = false → app'.needsRender = false → app'.draw = .ok lines)) ∧
    ∀ past dashboard, Reach move? (ofStore store server tick now) past dashboard →
      dashboard.app.shouldQuit = false → ∀ round,
        ∃ dashboard', dashboard.step round = .ok dashboard' ∧
          dashboard'.app.draw = .ok dashboard'.shown := by
  constructor
  · intro past app reach event
    obtain ⟨⟨app', effects⟩, updated⟩ := app.update_answers event
    obtain ⟨lines, drawn⟩ := app.draw_answers
    refine ⟨app', effects, lines, updated, drawn, fun _ clean => ?_⟩
    rw [(AppState.follows_update updated).draw_eq (AppState.kept_of_reach reach) clean, drawn]
  · intro past dashboard reach goesOn round
    have upToDate := reach.invariant UpToDate (upToDate_ofStore store server tick now)
      fun _ _ _ upToDate taken => upToDate.move taken
    obtain ⟨dashboard', stepped, _, shows⟩ := upToDate.step round
    exact ⟨dashboard', stepped, shows goesOn⟩

/-- A tick comes before the uptime of the only row is due, with nothing to draw; and a round takes up
that the server has refused a channel, together with a key. -/
theorem shown_in_time_before_due :
    (∃ past app app' effects lines, Reach AppState.move? (.start "" 100 default) past app ∧
      app.table.rows.length = 1 ∧ app.needsRender = false ∧
      app.update .tick = .ok (app', effects) ∧ app'.needsRender = false ∧
      app.draw = .ok lines ∧ app'.draw = .ok lines) ∧
    ∃ past dashboard dashboard', Reach move? (ofStore { options := {} } "" 100 default) past dashboard ∧
      dashboard.inbox = [.inactive] ∧ dashboard.app.shouldQuit = false ∧
      dashboard.step ⟨80, 24, default, [.key { key := .char 'r' }], true⟩ = .ok dashboard' ∧
      dashboard'.app.draw = .ok dashboard'.shown := by
  have sound := shown_in_time { options := {} } "" 100 default
  constructor
  · have reach : Reach AppState.move? (.start "" 100 default) _ _ :=
      .of_trail [.event (.frame 80 24 default), .event (.store (.update [default])), .drawn,
        .event (.frame 80 24 ⟨99, 99⟩)] rfl
    obtain ⟨app', effects, lines, updated, drawn, same⟩ := sound.1 _ _ reach .tick
    cases updated
    exact ⟨_, _, _, _, lines, reach, rfl, rfl, rfl, rfl, drawn, same rfl rfl⟩
  · have reach : Reach move? (ofStore { options := {} } "" 100 default) _ _ :=
      .of_trail [.store .start, .store (.step .work (.syncLoop 1)),
        .store (.step .work (.syncLoop 1)), .store (.step .work (.channel 0)),
        .store (.step .work (.channel 0)), .store (.refuseChannel .closed),
        .store (.step .work (.channel 0)), .store (.step .work (.channel 0)), .forward] rfl
    obtain ⟨dashboard', stepped, shows⟩ := sound.2 _ _ reach rfl _
    exact ⟨_, _, dashboard', reach, rfl, rfl, stepped, shows⟩

end Dashboard

end SessionBoard
