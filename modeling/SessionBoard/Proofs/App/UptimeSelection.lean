import SessionBoard.Proofs.App.Redraw
import SessionBoard.Proofs.App.Selection

namespace SessionBoard

/-- The selection goes from the start of a cell to the end of this many characters. -/
def Selection.Spans (selection : Selection) (column length : Nat) : Prop :=
  selection.range = some (⟨column, 0⟩, ⟨column, length⟩)

instance (selection : Selection) (key : SessionId) (column : Nat) :
    Decidable (selection.LiesIn key column) :=
  decidable_of_iff (selection.rowKey = some key ∧ selection.selecting = false ∧
      selection.anchor ≠ selection.cursor ∧ selection.anchor.column = column ∧
      selection.cursor.column = column)
    ⟨fun ⟨row, finished, nonempty, anchor, cursor⟩ => ⟨row, finished, nonempty, anchor, cursor⟩,
      fun lies => ⟨lies.row, lies.finished, lies.nonempty, lies.anchor, lies.cursor⟩⟩

namespace TableState

instance (table table' : TableState) (text : List Char) : Decidable (table.Outdated table' text) :=
  inferInstanceAs (Decidable (∃ row ∈ table.rows, ∃ row' ∈ table'.rows, _))

variable {table table' : TableState} {row row' : SessionRow} {snapshot : Snapshot} {now : Clock}
  {text : List Char}

/-- A row that stays with the same start keeps its display. -/
theorem Sound.uptime_applySnapshot (sound : table.Sound) (onTime : row.OnTime) (member : row ∈ table.rows)
    (member' : row' ∈ (table.applySnapshot snapshot now).1.rows) (key : row'.key = row.key)
    (start : row'.record.startedAt = row.record.startedAt) : row'.uptime = row.uptime := by
  have lists := table.lists_applySnapshot snapshot now
  have last : IsLast snapshot row.key row'.record := key ▸ lists.last row' member'
  obtain ⟨_, acted, _⟩ := table.displays_applySnapshot snapshot now
  obtain ⟨other, isOther, furnished⟩ := acted _ (SessionRow.mem_brought sound.keys_nodup member last)
  -- The row that came of this record is the one with its identifier, as no two rows share theirs.
  have sameRecord : other.record = row'.record := furnished.record
  have same : other = row' :=
    List.inj_on_of_nodup_map lists.keys_nodup isOther member' (congrArg SessionRecord.id sameRecord)
  have carried : SessionRow.carried? (some row) row'.record = some row.uptime :=
    SessionRow.carried?_eq_some.mpr ⟨row, rfl, rfl, onTime.trans start.symm⟩
  rw [← same]
  exact furnished.carried _ carried

/-- A selection whose row is still there is not lost. -/
theorem Outdated.not_loses (outdated : table.Outdated table' text) : ¬table.Loses table' := by
  obtain ⟨row, _, row', member', key, lies, _⟩ := outdated
  rintro ⟨other, _, onOther, gone⟩
  have same : row.key = other.key := Option.some.inj (lies.row.symm.trans onOther)
  exact gone (same ▸ key ▸ List.mem_map_of_mem member')

theorem Sound.not_outdated (sound : table.Sound) (rows : table'.rows = table.rows) :
    ¬table.Outdated table' text := by
  rintro ⟨row, member, row', member', key, _, rfl, another⟩
  rw [rows] at member'
  have same : row' = row := List.inj_on_of_nodup_map sound.keys_nodup member' member key
  exact another (congrArg (fun row => row.uptime.text) same)

end TableState

namespace AppState

variable {app : AppState} {event : AppEvent} {table : TableState} {text : List Char}

/-- What an event makes of the selection which gives this new text to the uptime in which it lies. -/
structure Respanned (app : AppState) (event : AppEvent) (table : TableState) (text : List Char) : Prop where
  ticked : event = .tick →
    table.selection.Spans Column.uptime text.length ∧ table.selectedText = .ok (some text)
  /-- The text is that of another display, and the ends of the selection are those they were. -/
  rebuilt : event ≠ .tick → table.selection = app.table.selection ∧
    ∃ snapshot, event = .store (.update snapshot) ∧
      ∃ row ∈ app.table.rows, ∃ row' ∈ table.rows, row'.key = row.key ∧
        app.table.selection.rowKey = some row.key ∧ row'.record.startedAt ≠ row.record.startedAt
  spans_iff : table.selection.Spans Column.uptime text.length ↔
    event = .tick ∨ app.table.selection.Spans Column.uptime text.length

theorem respanned_onTick (sound : app.table.Sound)
    (outdated : app.table.Outdated (app.table.tick app.now).1 text) :
    app.Respanned .tick (app.table.tick app.now).1 text := by
  obtain ⟨spanned, copied⟩ := sound.selection_of_outdated outdated
  obtain ⟨row, member, row', member', key, lies, rfl, _⟩ := outdated
  have positive : 0 < row'.uptime.text.length :=
    List.length_pos_of_ne_nil (LiveTime.text_ne_nil ((sound.tick app.now).grouped row' member'))
  have spans : (app.table.tick app.now).1.selection.Spans Column.uptime row'.uptime.text.length := by
    rw [spanned]
    exact Selection.range_whole lies.row positive
  exact ⟨fun _ => ⟨spans, copied⟩, fun other => absurd rfl other, fun _ => .inl rfl, fun _ => spans⟩

theorem respanned_onSnapshot (sound : app.table.Sound) (kept : app.table.Kept) (snapshot : Snapshot)
    (outdated : app.table.Outdated (app.table.applySnapshot snapshot app.now).1 text) :
    app.Respanned (.store (.update snapshot)) (app.table.applySnapshot snapshot app.now).1 text := by
  have stays := sound.selection_of_not_loses outdated.not_loses
  obtain ⟨row, member, row', member', key, lies, rfl, another⟩ := outdated
  have renewed : row'.record.startedAt ≠ row.record.startedAt := by
    intro start
    have same := sound.uptime_applySnapshot (kept.onTime row member) member member' key start
    exact another (congrArg LiveTime.text same)
  refine ⟨nofun, fun _ => ⟨stays, snapshot, rfl, row, member, row', member', key, lies.row, renewed⟩, ?_⟩
  rw [stays]
  exact ⟨.inr, fun spans => spans.resolve_left nofun⟩

theorem Turns.respanned (turns : app.Turns event table) (sound : app.table.Sound) (kept : app.table.Kept)
    (outdated : app.table.Outdated table text) : app.Respanned event table text := by
  cases turns with
  | tick => exact respanned_onTick sound outdated
  | snapshot snapshot => exact respanned_onSnapshot sound kept snapshot outdated
  | pointer => exact absurd outdated (sound.not_outdated rfl)
  | view _ rows => exact absurd outdated (sound.not_outdated rows)

/-- A finished selection within an uptime that gets another text spans all of it after a tick, and after
anything else only if its ends happen to be those of the new text. A snapshot that tells another start changes
the text too, and the selection stays where it was. -/
theorem uptime_spanned {server : String} {tick : Nat} {now : Clock} {past : List (AppState × Move)}
    (reach : Reach move? (start server tick now) past app) (event : AppEvent) :
    ∃ app' effects, app.update event = .ok (app', effects) ∧
      ∀ text, app.table.Outdated app'.table text → app.Respanned event app'.table text := by
  obtain ⟨⟨app', effects⟩, updated⟩ := app.update_answers event
  have sound := sound_of_reach reach
  have kept := kept_of_reach reach
  exact ⟨app', effects, updated, fun _ => (turns_of_update updated).respanned sound kept⟩

/-- Of a first digit that is selected there is a whole uptime selected after the next tick. -/
theorem uptime_spanned_by_tick :
    ∃ past app, Reach move? (start "server" 100 ⟨0, 1234000⟩) past app ∧
      app.table.selection.range = some (⟨5, 0⟩, ⟨5, 1⟩) ∧
      app.table.Outdated app.onTick.table "1\u2009334".toList ∧
      ∀ event, ∃ app' effects, app.update event = .ok (app', effects) ∧
        ∀ text, app.table.Outdated app'.table text → app.Respanned event app'.table text := by
  have reach : Reach move? (start "server" 100 ⟨0, 1234000⟩) _ _ :=
    .of_moves [.event (.frame 100 10 ⟨0, 1234000⟩),
      .event (.store (.update [.plain "b" .waiting 9000, .plain "a" .waiting 0])),
      .event (.mouse ⟨.down .left, 85, 3⟩), .event (.mouse ⟨.drag .left, 86, 2⟩),
      .event (.mouse ⟨.up .left, 86, 2⟩), .event (.frame 100 10 ⟨100000, 1334000⟩)] (by decide +kernel)
  exact ⟨_, _, reach, by decide +kernel, by decide +kernel, uptime_spanned reach⟩

/-- All of an uptime is selected, and a snapshot tells another start: one digit of the five characters that
the uptime has then is selected. -/
theorem part_selected_after_rebuild :
    ∃ past app, Reach move? (start "server" 100 ⟨0, 1234000⟩) past app ∧
      app.table.selection.Spans Column.uptime 1 ∧ app.table.selectedText = .ok (some ['5']) ∧
      ∃ app', app.update (.store (.update [.plain "a" .waiting 0])) = .ok (app', []) ∧
        app.table.Outdated app'.table "1\u2009234".toList ∧
        ¬app'.table.selection.Spans Column.uptime "1\u2009234".toList.length ∧
        app'.table.selectedText = .ok (some ['1']) := by
  have reach : Reach move? (start "server" 100 ⟨0, 1234000⟩) _ _ :=
    .of_moves [.event (.frame 100 10 ⟨0, 1234000⟩),
      .event (.store (.update [.plain "a" .waiting 1229000])),
      .event (.mouse ⟨.down .left, 85, 2⟩), .event (.mouse ⟨.drag .left, 86, 2⟩),
      .event (.mouse ⟨.up .left, 86, 2⟩)] (by decide +kernel)
  exact ⟨_, _, reach, by unfold Selection.Spans; decide +kernel, by decide +kernel, _, rfl, by decide +kernel,
    by unfold Selection.Spans; decide +kernel, by decide +kernel⟩

end AppState

end SessionBoard
