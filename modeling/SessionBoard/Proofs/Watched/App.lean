import SessionBoard.Proofs.App.Moves
import SessionBoard.Proofs.Table.Upkeep
import SessionBoard.Proofs.Uptime.Cadence
import SessionBoard.Proofs.Watched.Table

namespace SessionBoard.Watched

open AppState (copiedText)

variable {limit interval : Nat} {app app' : AppState}

def onTick (limit : Nat) (app : AppState) : Checked AppState := do
  let (table, ticked) ← Watched.tick app.table limit app.now
  let (status, expired) := app.status.expire app.now.instant
  return { app with table := table, status := status }.dirtyIf (ticked || expired)

def onStore (limit : Nat) (app : AppState) (event : StoreEvent) : Checked AppState :=
  let (header, changed) := app.header.apply event
  let app := { app with header := header }.dirtyIf changed
  match event with
  | .update snapshot => do
    let (table, report) ← applySnapshot app.table limit snapshot app.now
    return { app with table := table }.dirtyIf (!report.isUnchanged)
  | .active | .inactive => .ok app

def notify (limit : Nat) (app : AppState) (kind : NoticeKind) (text : String) : Checked AppState := do
  let expiresAt ← Checked.add limit app.now.instant StatusLine.noticeDuration
  let notice : Notice := ⟨text.toList, kind, expiresAt⟩
  return { app with status := { app.status with notice := some notice } }.dirtyIf true

def onKey (limit : Nat) (app : AppState) (event : KeyEvent) : Checked (AppState × List Effect) :=
  if event.action = .press ∧ event.key = .char 'r' then do
    return (← notify limit app .info "Refreshing…", [.refresh])
  else .ok (app.onKey event)

def update (limit : Nat) (app : AppState) : AppEvent → Checked (AppState × List Effect)
  | .tick => do return (← onTick limit app, [])
  | .frame width height now => .ok (app.onFrame width height now, [])
  | .key event => onKey limit app event
  | .mouse event => do
    let (table, effect) ← onMouse app.table app.screen event
    return ({ app with table := table }.dirtyIf true, effect.toList)
  | .resize => .ok (app.dirtyIf true, [])
  | .ignored => .ok (app, [])
  | .store event => do return (← onStore limit app event, [])
  | .copied chars => do return (← notify limit app .info (copiedText chars), [])
  | .copyFailed message => do return (← notify limit app .error ("Copy failed: " ++ message), [])

/-- From this reading on the clock goes on for one more interval and for a notice. -/
def HasRoom (limit interval : Nat) (clock : Clock) : Prop :=
  clock.instant + interval ≤ limit ∧ clock.instant + StatusLine.noticeDuration ≤ limit

instance (limit interval : Nat) : DecidablePred (HasRoom limit interval) := fun _ =>
  inferInstanceAs (Decidable (_ ∧ _))

/-- All displays are recomputed at one interval, and the clock has room for it. -/
structure Timed (limit interval : Nat) (app : AppState) : Prop where
  room : HasRoom limit interval app.now
  tick : app.table.context.tick = interval
  intervals : ∀ row ∈ app.table.rows, row.uptime.interval = interval

theorem notify_eq (timed : Timed limit interval app) (kind : NoticeKind) (text : String) :
    notify limit app kind text = .ok (app.notify kind text) := by
  rw [notify, Checked.add_eq timed.room.2]
  rfl

theorem onKey_eq (timed : Timed limit interval app) (event : KeyEvent) :
    onKey limit app event = .ok (app.onKey event) := by
  rw [onKey]
  split
  next refresh =>
    rw [notify_eq timed, AppState.onKey, if_neg (by simp [refresh.1]), if_neg (by simp [refresh.2]),
      if_pos refresh.2]
    rfl
  · rfl

theorem update_eq (timed : Timed limit interval app) (event : AppEvent) :
    update limit app event = app.update event := by
  cases event with
  | tick =>
    have room : ∀ row ∈ app.table.rows, app.now.instant + row.uptime.interval ≤ limit := fun row member => by
      rw [timed.intervals row member]
      exact timed.room.1
    rw [update, onTick, tick_eq app.table room]
    rfl
  | key event => exact onKey_eq timed event
  | mouse event =>
    rw [update, onMouse_eq]
    rfl
  | store event =>
    cases event with
    | update snapshot =>
      have room : app.now.instant + app.table.context.tick ≤ limit := timed.tick ▸ timed.room.1
      have applied := applySnapshot_eq app.table room snapshot
      rw [update, onStore]
      refine congrArg (· >>= _) (congrArg (· >>= _) applied)
    | active | inactive => rfl
  | copied chars =>
    rw [update, notify_eq timed]
    rfl
  | copyFailed message =>
    rw [update, notify_eq timed]
    rfl
  | frame | resize | ignored => rfl

def drawBody (app : AppState) : Checked (List (List Cell)) :=
  let body := app.screen.body
  match tip? app.header.activity app.table.isEmpty with
  | some text => .ok (drawTip text body.width body.height)
  | none => Watched.draw app.table body.width body.height

def drawScreen (app : AppState) : Checked (List (List Cell)) := do
  let screen := app.screen
  let line (area : Area) (spans : List Span) : List (List Cell) :=
    List.replicate area.height (drawSpans area.width spans)
  let titles ← titleSpans app.table
  let body ← drawBody app
  return line screen.header app.header.spans ++ line screen.titles titles ++ body
    ++ line screen.status (app.status.spans screen.status.width)

theorem drawScreen_eq (app : AppState) : drawScreen app = app.draw := by
  have body : drawBody app = app.drawBody := by
    rw [drawBody, draw_eq]
    rfl
  rw [drawScreen, titleSpans_eq, Checked.ok_bind, body]
  rfl

theorem timed_start (server : String) {now : Clock} (room : HasRoom limit interval now) :
    Timed limit interval (.start server interval now) where
  room := room
  tick := rfl
  intervals := by simp [AppState.start, TableState.start]

theorem Timed.of_same (timed : Timed limit interval app) (now : app'.now = app.now)
    (context : app'.table.context = app.table.context) (rows : app'.table.rows = app.table.rows) :
    Timed limit interval app' where
  room := now ▸ timed.room
  tick := context ▸ timed.tick
  intervals := rows ▸ timed.intervals

theorem Timed.onStore (timed : Timed limit interval app) (event : StoreEvent) :
    Timed limit interval (app.onStore event) := by
  cases event with
  | active | inactive => exact timed.of_same rfl rfl rfl
  | update snapshot =>
    obtain ⟨onward, -, made⟩ := app.table.displays_applySnapshot snapshot app.now
    refine ⟨timed.room, onward.tick.trans timed.tick, fun row member => ?_⟩
    obtain ⟨⟨old, record⟩, brought, furnished⟩ := made row member
    cases carried : SessionRow.carried? old record with
    | some display =>
      obtain ⟨before, rfl, rfl, -⟩ := SessionRow.carried?_eq_some.mp carried
      rw [furnished.carried _ carried]
      exact timed.intervals before (SessionRow.of_mem_brought brought).1
    | none =>
      obtain ⟨generation, -, -, same⟩ := furnished.renewed carried
      rw [same]
      exact timed.tick

/-- The reading of the clocks that comes with a move. -/
def clock? : AppState.Move → Option Clock
  | .event (.frame _ _ now) => some now
  | _ => none

theorem Timed.move? (timed : Timed limit interval app) {move : AppState.Move}
    (room : ∀ now ∈ clock? move, HasRoom limit interval now) (taken : app.move? move = some app') :
    Timed limit interval app' := by
  cases move with
  | drawn | quit =>
    cases taken
    exact timed.of_same rfl rfl rfl
  | event event =>
    obtain ⟨effects, updated⟩ := AppState.move?_event.mp taken
    cases event with
    | tick =>
      cases updated
      refine ⟨timed.room, timed.tick, fun row member => ?_⟩
      have member : row ∈ (app.table.tick app.now).1.rows := member
      rw [TableState.rows_tick] at member
      obtain ⟨before, earlier, rfl⟩ := List.mem_map.mp member
      exact (before.uptime.interval_poll app.now).trans (timed.intervals before earlier)
    | frame width height now =>
      cases updated
      have fresh : HasRoom limit interval now := room now rfl
      rw [AppState.onFrame]
      dsimp only
      split <;> exact ⟨fresh, timed.tick, timed.intervals⟩
    | key event =>
      cases AppState.keyStep_of_update updated with
      | nothing | notice | clear => exact timed.of_same rfl rfl rfl
      | scroll answered =>
        obtain ⟨offset, rfl⟩ := TableState.onKey_eq answered
        exact timed.of_same rfl rfl rfl
    | mouse event =>
      obtain ⟨⟨table, effect⟩, moved, same⟩ := Checked.bind_eq_ok.mp updated
      cases same
      rcases TableState.onMouse_eq moved with ⟨delta, rfl⟩ | rfl | ⟨_, selection, _, rfl⟩ <;>
        exact timed.of_same rfl rfl rfl
    | store event =>
      cases updated
      exact timed.onStore event
    | resize | ignored | copied | copyFailed =>
      cases updated
      exact timed.of_same rfl rfl rfl

/-- One move of the board with a look at every bound. -/
def step (limit : Nat) (app : AppState) : AppState.Move → Checked AppState
  | .event event => do return (← update limit app event).1
  | .drawn => do
    let _ ← drawScreen app
    return { app with needsRender := false }
  | .quit => .ok { app with shouldQuit := true }

/-- In this state no bound is broken by any event, and none by drawing it. -/
structure Unbroken (limit : Nat) (app : AppState) : Prop where
  update : ∀ event, ∃ answer, Watched.update limit app event = .ok answer ∧ app.update event = .ok answer
  draw : ∃ lines, drawScreen app = .ok lines ∧ app.draw = .ok lines

theorem Timed.unbroken (timed : Timed limit interval app) : Unbroken limit app where
  update event := by
    obtain ⟨answer, answered⟩ := app.update_answers event
    exact ⟨answer, (update_eq timed event).trans answered, answered⟩
  draw := by
    obtain ⟨lines, drawn⟩ := app.draw_answers
    exact ⟨lines, (drawScreen_eq app).trans drawn, drawn⟩

/-- A move that is looked at is made. -/
theorem Timed.step (timed : Timed limit interval app) (move : AppState.Move) :
    ∃ app', Watched.step limit app move = .ok app' ∧ app.move? move = some app' := by
  cases move with
  | event event =>
    obtain ⟨answer, watched, answered⟩ := timed.unbroken.update event
    refine ⟨answer.1, ?_, AppState.move?_event.mpr ⟨answer.2, answered⟩⟩
    rw [Watched.step, watched]
    rfl
  | drawn =>
    obtain ⟨lines, watched, -⟩ := timed.unbroken.draw
    refine ⟨_, ?_, rfl⟩
    rw [Watched.step, watched]
    rfl
  | quit => exact ⟨_, rfl, rfl⟩

theorem Timed.run (timed : Timed limit interval app) {moves : List AppState.Move}
    (room : ∀ move ∈ moves, ∀ now ∈ clock? move, HasRoom limit interval now) :
    ∃ app', moves.foldlM (Watched.step limit) app = .ok app' ∧
      moves.foldlM AppState.move? app = some app' ∧ Timed limit interval app' := by
  induction moves generalizing app with
  | nil => exact ⟨app, rfl, rfl, timed⟩
  | cons move moves ih =>
    obtain ⟨first, later⟩ := List.forall_mem_cons.mp room
    obtain ⟨next, watched, taken⟩ := timed.step move
    obtain ⟨last, rest⟩ := ih (timed.move? first taken) later
    refine ⟨last, ?_⟩
    rwa [List.foldlM_cons, List.foldlM_cons, watched, taken]

/-- From the first state on, whatever happens and whenever the screen is drawn, no bound is broken: no
index, slice, cut of a text, difference or sum is ever refused, and each state and screen is that of the
board. -/
theorem board_unbroken {now : Clock} (first : HasRoom limit interval now) (server : String)
    {moves : List AppState.Move}
    (room : ∀ move ∈ moves, ∀ reading ∈ clock? move, HasRoom limit interval reading) :
    ∃ app, moves.foldlM (step limit) (.start server interval now) = .ok app ∧
      moves.foldlM AppState.move? (.start server interval now) = some app ∧ Unbroken limit app := by
  obtain ⟨last, watched, taken, timed⟩ := (timed_start server first).run room
  exact ⟨last, watched, taken, timed.unbroken⟩

/-- Without any line, beside the screen, and from the first instant that the clocks can tell to the last. -/
theorem board_unbroken_at_the_edges :
    let moves : List AppState.Move := [
      .event (.frame 0 0 ⟨0, 0x7fffffffffffffff⟩), .drawn,
      .event (.store (.update [.plain "a" .waiting (-0x8000000000000000)])), .drawn,
      .event (.mouse ⟨.down .left, 7, 0⟩), .event (.frame 90 5 ⟨150, -0x8000000000000000⟩), .event .tick,
      .event (.mouse ⟨.down .left, 89, 2⟩), .event (.mouse ⟨.drag .left, 900, 80⟩), .drawn,
      .event (.mouse ⟨.up .left, 0, 0⟩), .event (.key { key := .char 'r' }), .drawn]
    HasRoom 2150 100 ⟨0, 0⟩ ∧ ∃ app, moves.foldlM (step 2150) (.start "" 100 ⟨0, 0⟩) = .ok app ∧
      moves.foldlM AppState.move? (.start "" 100 ⟨0, 0⟩) = some app ∧ Unbroken 2150 app :=
  ⟨by decide, board_unbroken (by decide) "" (by decide)⟩

/-- Where the clock has no room for a notice, the look at the sum tells. -/
example : update 1999 (.start "" 100 ⟨0, 0⟩) (.copied 1) = .error .overflow := by decide

end SessionBoard.Watched
