import SessionBoard.Proofs.Table.Displays

namespace SessionBoard

namespace Selection

variable {selection : Selection} {key : SessionId} {column length : Nat}

/-- The selection is finished and not empty, and it lies in this column of the row with this key. -/
structure LiesIn (selection : Selection) (key : SessionId) (column : Nat) : Prop where
  row : selection.rowKey = some key
  finished : selection.selecting = false
  nonempty : selection.anchor ≠ selection.cursor
  anchor : selection.anchor.column = column
  cursor : selection.cursor.column = column

/-- The selection over all of a cell that has this many characters. -/
def whole (selection : Selection) (column length : Nat) : Selection :=
  { selection with anchor := ⟨column, 0⟩, cursor := ⟨column, length⟩ }

theorem range_eq_none (row : selection.rowKey = some key) :
    selection.range = none ↔ selection.anchor = selection.cursor := by
  unfold range
  rw [row]
  grind

theorem reassert_of_liesIn (lies : selection.LiesIn key column) (length : Nat) :
    (selection.reassert key column length).1 = selection.whole column length := by
  have ranges : selection.range ≠ none := mt (range_eq_none lies.row).mp lies.nonempty
  simp [reassert, whole, lies.row, lies.finished, lies.anchor, lies.cursor, ranges]

theorem reassert_of_not_liesIn (other : ¬selection.LiesIn key column) (length : Nat) :
    (selection.reassert key column length).1 = selection := by
  unfold reassert
  split
  · rfl
  · rename_i standing
    simp only [not_or, Bool.not_eq_true, not_not] at standing
    obtain ⟨finished, row, ranges⟩ := standing
    split
    · rfl
    · rename_i within
      simp only [not_or, not_not] at within
      refine absurd ⟨row, finished, fun empty => ?_, within.1, within.2⟩ other
      rw [(range_eq_none row).mpr empty] at ranges
      cases ranges

theorem rowKey_reassert : (selection.reassert key column length).1.rowKey = selection.rowKey := by
  by_cases lies : selection.LiesIn key column
  · rw [reassert_of_liesIn lies]
    rfl
  · rw [reassert_of_not_liesIn lies]

theorem range_whole (row : selection.rowKey = some key) (positive : 0 < length) :
    (selection.whole column length).range = some (⟨column, 0⟩, ⟨column, length⟩) := by
  have ordered : (⟨column, 0⟩ : CellPoint) ≤ ⟨column, length⟩ := .inr ⟨rfl, Nat.zero_le _⟩
  simp [range, whole, row, ordered, Nat.ne_of_lt positive]

/-- What is selected of a row where the selection spans one of its cells. -/
theorem selectedText_whole {cells : List (List Char)} {cell : List Char}
    (row : selection.rowKey = some key) (atColumn : cells[column]? = some cell) (nonempty : cell ≠ []) :
    (selection.whole column cell.length).selectedText cells = .ok (some cell) := by
  obtain ⟨bound, _⟩ := List.getElem?_eq_some_iff.mp atColumn
  have positive : 0 < cell.length := List.length_pos_of_ne_nil nonempty
  have named : (selection.whole column cell.length).rowKey = some key := row
  have ranges : (selection.whole column cell.length).range = some (⟨column, 0⟩, ⟨column, cell.length⟩) :=
    range_whole row positive
  have lit : (selection.whole column cell.length).highlight key column cell.length =
      some (0, cell.length) := by
    simp [highlight, named, ranges, positive]
  have piece : (selection.whole column cell.length).pieceOf key cells column = .ok (some cell) := by
    simp [pieceOf, Checked.get_eq_ok.mpr atColumn, lit, Text.slice, pure, Except.pure, bind, Except.bind]
  have columns : List.range' column (min column (cells.length - 1) + 1 - column) = [column] := by
    rw [show min column (cells.length - 1) + 1 - column = 1 by omega]
    rfl
  simp [selectedText, named, ranges, columns, piece, bind, Except.bind, pure, Except.pure]

end Selection

namespace TableState

open Selection (reassert_of_liesIn reassert_of_not_liesIn)
open Uptime (Grouped)

variable {table table' : TableState} {now : Clock} {snapshot : Snapshot} {rows : List SessionRow}
  {row : SessionRow} {selection : Selection} {text : List Char}

/-- The selection is on a row of the table, in columns that there are, and a drag has one to be on. -/
structure Selects (table : TableState) : Prop where
  present : ∀ key, table.selection.rowKey = some key → key ∈ table.rows.map SessionRow.key
  anchor : table.selection.anchor.column < 6
  cursor : table.selection.cursor.column < 6
  dragging : table.selection.selecting → table.selection.rowKey.isSome

theorem selects_of_cleared (cleared : table.selection = .cleared) : table.Selects := by
  constructor <;> rw [cleared]
  · exact nofun
  · exact Nat.zero_lt_succ 5
  · exact Nat.zero_lt_succ 5
  · exact nofun

/-- What holds of the rows and the selection of a table, whatever is done to it. Only the left button moves the
selection, unless its row goes or the uptime that it lies in gets another text. -/
structure Sound (table : TableState) : Prop where
  keys_nodup : (table.rows.map SessionRow.key).Nodup
  grouped : ∀ row ∈ table.rows, Grouped row.uptime.groups
  selects : table.Selects

theorem sound_start (now : Clock) (tick : Nat) : (start now tick).Sound :=
  ⟨.nil, nofun, selects_of_cleared rfl⟩

theorem Sound.of_same (sound : table.Sound) (rows : table'.rows = table.rows)
    (selection : table'.selection = table.selection) : table'.Sound := by
  obtain ⟨distinct, grouped, present, anchor, cursor, dragging⟩ := sound
  refine ⟨?_, ?_, ?_, ?_, ?_, ?_⟩ <;> simpa only [rows, selection]

theorem selectedRow?_of_nodup (distinct : (table.rows.map SessionRow.key).Nodup) (member : row ∈ table.rows)
    (selected : table.selection.rowKey = some row.key) : table.selectedRow? = some row := by
  have found : (table.rows.find? (·.key = row.key)).isSome :=
    List.find?_isSome.mpr ⟨row, member, decide_eq_true rfl⟩
  obtain ⟨other, atKey⟩ := Option.isSome_iff_exists.mp found
  have same : other.key = row.key := by simpa using List.find?_some atKey
  have only : other = row :=
    List.inj_on_of_nodup_map distinct (List.mem_of_find?_eq_some atKey) member same
  subst only
  rw [selectedRow?, selected]
  exact atKey

theorem Sound.selectedRow?_eq (sound : table.Sound) (member : row ∈ table.rows)
    (selected : table.selection.rowKey = some row.key) : table.selectedRow? = some row :=
  selectedRow?_of_nodup sound.keys_nodup member selected

/-- Nothing but the cells of the selected row and the selection tells what is selected. -/
theorem selectedText_of_same
    (cells : table'.selectedRow?.map SessionRow.cells = table.selectedRow?.map SessionRow.cells)
    (selection : table'.selection = table.selection) : table'.selectedText = table.selectedText := by
  have read : ∀ table : TableState, table.selectedText =
      ((table.selectedRow?.map SessionRow.cells).map table.selection.selectedText).getD (.ok none) := by
    intro table
    unfold selectedText
    cases table.selectedRow? <;> rfl
  rw [read, read, cells, selection]

/-- The selection after one row was polled. -/
def passed (now : Clock) (row : SessionRow) (selection : Selection) : Selection :=
  if (row.uptime.poll now).2.any (!·.isEmpty) then
    (selection.reassert row.key Column.uptime (row.polled now).uptime.text.length).1
  else selection

theorem tickRows_cons (now : Clock) (row : SessionRow) (rows : List SessionRow) (selection : Selection) :
    (tickRows now (row :: rows) selection).1.2 = (tickRows now rows (passed now row selection)).1.2 :=
  rfl

theorem passed_of_not_liesIn (other : ¬selection.LiesIn row.key Column.uptime) :
    passed now row selection = selection := by
  rw [passed, reassert_of_not_liesIn other, ite_self]

theorem rowKey_passed : (passed now row selection).rowKey = selection.rowKey := by
  unfold passed
  split
  · exact Selection.rowKey_reassert
  · rfl

theorem selection_tickRows_of_absent (absent : ∀ row ∈ rows, selection.rowKey ≠ some row.key) :
    (tickRows now rows selection).1.2 = selection := by
  induction rows with
  | nil => rfl
  | cons row rows ih =>
    obtain ⟨elsewhere, others⟩ := List.forall_mem_cons.mp absent
    rw [tickRows_cons, passed_of_not_liesIn fun lies => elsewhere lies.row]
    exact ih others

/-- Of all the rows only the selected one moves the selection. -/
theorem selection_tickRows (distinct : (rows.map SessionRow.key).Nodup) (member : row ∈ rows)
    (selected : selection.rowKey = some row.key) :
    (tickRows now rows selection).1.2 = passed now row selection := by
  induction rows with
  | nil => cases member
  | cons first rows ih =>
    obtain ⟨apart, distinct⟩ := List.nodup_cons.mp distinct
    rw [tickRows_cons]
    rcases List.mem_cons.mp member with rfl | later
    -- None of the rows that are left has the key of this one.
    · refine selection_tickRows_of_absent fun other later same => apart ?_
      rw [rowKey_passed, selected] at same
      exact Option.some.inj same ▸ List.mem_map_of_mem later
    · have elsewhere : first.key ≠ row.key := fun same => apart (same ▸ List.mem_map_of_mem later)
      rw [passed_of_not_liesIn fun lies => elsewhere (Option.some.inj (lies.row.symm.trans selected))]
      exact ih distinct later

/-- A tick leaves the selection alone, or spans the uptime that it lies in and that has changed. -/
theorem selection_tick (distinct : (table.rows.map SessionRow.key).Nodup) (now : Clock) :
    (table.tick now).1.selection = table.selection ∨
      ∃ row ∈ table.rows, table.selection.LiesIn row.key Column.uptime ∧
        (row.uptime.poll now).2.any (!·.isEmpty) = true ∧
        (table.tick now).1.selection =
          table.selection.whole Column.uptime (row.polled now).uptime.text.length := by
  by_cases selected : ∃ row ∈ table.rows, table.selection.rowKey = some row.key
  · obtain ⟨row, member, onRow⟩ := selected
    have moved : (table.tick now).1.selection = passed now row table.selection :=
      selection_tickRows distinct member onRow
    by_cases lies : table.selection.LiesIn row.key Column.uptime
    · rw [moved, passed, reassert_of_liesIn lies]
      split
      · exact .inr ⟨row, member, lies, ‹_›, rfl⟩
      · exact .inl rfl
    · exact .inl (moved.trans (passed_of_not_liesIn lies))
  · exact .inl <| selection_tickRows_of_absent fun row member onRow => selected ⟨row, member, onRow⟩

theorem Sound.tick (sound : table.Sound) (now : Clock) : (table.tick now).1.Sound := by
  obtain ⟨distinct, grouped, selects⟩ := sound
  refine ⟨?_, fun row member => ?_, ?_⟩
  · rw [map_key_tick]
    exact distinct
  · rw [rows_tick] at member
    obtain ⟨row, earlier, rfl⟩ := List.mem_map.mp member
    exact LiveTime.grouped_poll now (grouped row earlier)
  · obtain ⟨present, anchor, cursor, dragging⟩ := selects
    rw [← map_key_tick table now] at present
    rcases selection_tick distinct now with same | ⟨row, _, _, _, spans⟩
    · rw [← same] at present anchor cursor dragging
      exact ⟨present, anchor, cursor, dragging⟩
    · constructor <;> rw [spans]
      · exact present
      · exact (by decide : Column.uptime < 6)
      · exact (by decide : Column.uptime < 6)
      · exact dragging

/-- The selection lies in an uptime that has got another text, which is this one. -/
def Outdated (table table' : TableState) (text : List Char) : Prop :=
  ∃ row ∈ table.rows, ∃ row' ∈ table'.rows, row'.key = row.key ∧
    table.selection.LiesIn row.key Column.uptime ∧ row'.uptime.text = text ∧ text ≠ row.uptime.text

theorem Sound.selection_of_outdated (sound : table.Sound) (outdated : table.Outdated (table.tick now).1 text) :
    (table.tick now).1.selection = table.selection.whole Column.uptime text.length ∧
      (table.tick now).1.selectedText = .ok (some text) := by
  obtain ⟨row, member, row', member', key, lies, rfl, another⟩ := outdated
  have polled : row' = row.polled now :=
    List.inj_on_of_nodup_map (sound.tick now).keys_nodup member' (polled_mem_tick member now) key
  subst polled
  have visible := (row.uptime.visible_poll now (sound.grouped row member)).mpr another
  have moved : (table.tick now).1.selection = passed now row table.selection :=
    selection_tickRows sound.keys_nodup member lies.row
  rw [passed, if_pos visible, reassert_of_liesIn lies] at moved
  refine ⟨moved, ?_⟩
  have onRow : (table.tick now).1.selection.rowKey = some (row.polled now).key := by
    rw [moved]
    exact lies.row
  rw [selectedText, (sound.tick now).selectedRow?_eq member' onRow, moved]
  exact Selection.selectedText_whole lies.row rfl
    (LiveTime.text_ne_nil ((sound.tick now).grouped _ member'))

theorem Sound.selection_of_not_outdated (sound : table.Sound)
    (current : ∀ text, ¬table.Outdated (table.tick now).1 text) :
    (table.tick now).1.selection = table.selection := by
  rcases selection_tick sound.keys_nodup now with same | ⟨row, member, lies, visible, _⟩
  · exact same
  · have another := (row.uptime.visible_poll now (sound.grouped row member)).mp visible
    exact absurd ⟨row, member, _, polled_mem_tick member now, rfl, lies, rfl, another⟩ (current _)

theorem Sound.cells_of_outdated (sound : table.Sound) (outdated : table.Outdated (table.tick now).1 text) :
    (table.tick now).1.selectedRow?.map SessionRow.cells ≠ table.selectedRow?.map SessionRow.cells := by
  have spanned := (sound.selection_of_outdated outdated).1
  obtain ⟨row, member, row', member', key, lies, rfl, another⟩ := outdated
  have onRow : (table.tick now).1.selection.rowKey = some row'.key := by
    rw [spanned, key]
    exact lies.row
  rw [(sound.tick now).selectedRow?_eq member' onRow, sound.selectedRow?_eq member lies.row]
  simp [SessionRow.cells, another]

/-- The row of the selection has gone. -/
def Loses (table table' : TableState) : Prop :=
  ∃ row ∈ table.rows, table.selection.rowKey = some row.key ∧ row.key ∉ table'.rows.map SessionRow.key

/-- What is reported as removed are the sessions that have no row any more. -/
theorem mem_removed (distinct : (table.rows.map SessionRow.key).Nodup) (member : row ∈ table.rows) :
    row.key ∈ (table.applySnapshot snapshot now).2.removed ↔
      row.key ∉ (table.applySnapshot snapshot now).1.rows.map SessionRow.key := by
  have removed : (table.applySnapshot snapshot now).2.removed =
      (table.rows.map SessionRow.key).filter (· ∉ idsOf snapshot) :=
    (SessionRow.kind.reconciled SessionRow.kind_keyed table.rows snapshot _).removed_eq distinct
  rw [removed, (table.lists_applySnapshot snapshot now).mem_keys_iff]
  simp [List.mem_map_of_mem member]

theorem selection_of_loses (distinct : (table.rows.map SessionRow.key).Nodup)
    (loses : table.Loses (table.applySnapshot snapshot now).1) :
    (table.applySnapshot snapshot now).1.selection = .cleared := by
  obtain ⟨row, member, onRow, gone⟩ := loses
  have removed := (mem_removed distinct member).mpr gone
  unfold applySnapshot at removed ⊢
  dsimp only [clampScroll] at removed ⊢
  rw [onRow]
  exact if_pos removed

theorem Sound.cells_of_loses (sound : table.Sound) (loses : table.Loses table')
    (cleared : table'.selection = .cleared) :
    table'.selectedRow?.map SessionRow.cells ≠ table.selectedRow?.map SessionRow.cells := by
  obtain ⟨row, member, onRow, _⟩ := loses
  have nothing : table'.selectedRow? = none := by
    rw [selectedRow?, cleared]
    rfl
  rw [nothing, sound.selectedRow?_eq member onRow]
  exact nofun

theorem Sound.selection_of_not_loses (sound : table.Sound)
    (stays : ¬table.Loses (table.applySnapshot snapshot now).1) :
    (table.applySnapshot snapshot now).1.selection = table.selection := by
  refine selection_applySnapshot fun key onRow removed => ?_
  obtain ⟨row, member, rfl⟩ := List.mem_map.mp (sound.selects.present key onRow)
  exact stays ⟨row, member, onRow, (mem_removed sound.keys_nodup member).mp removed⟩

theorem Sound.applySnapshot (sound : table.Sound) (snapshot : Snapshot) (now : Clock) :
    (table.applySnapshot snapshot now).1.Sound := by
  refine ⟨(table.lists_applySnapshot snapshot now).keys_nodup, fun row member => ?_, ?_⟩
  -- A display is that of an old row, or it was rendered just now.
  · obtain ⟨⟨old, record⟩, wanted, furnished⟩ := (table.displays_applySnapshot snapshot now).2.2 row member
    cases carried : SessionRow.carried? old record with
    | none =>
      obtain ⟨generation, _, _, same⟩ := furnished.renewed carried
      rw [same]
      exact LiveTime.grouped_start ..
    | some display =>
      obtain ⟨earlier, rfl, rfl, _⟩ := SessionRow.carried?_eq_some.mp carried
      rw [furnished.carried _ carried]
      exact sound.grouped earlier (SessionRow.of_mem_brought wanted).1
  · by_cases loses : table.Loses (table.applySnapshot snapshot now).1
    · exact selects_of_cleared (selection_of_loses sound.keys_nodup loses)
    · have same := sound.selection_of_not_loses loses
      obtain ⟨present, anchor, cursor, dragging⟩ := sound.selects
      constructor <;> rw [same]
      · intro key onRow
        by_contra gone
        obtain ⟨row, member, rfl⟩ := List.mem_map.mp (present key onRow)
        exact loses ⟨row, member, onRow, gone⟩
      · exact anchor
      · exact cursor
      · exact dragging

theorem Sound.reselect (sound : table.Sound) (reselects : table.Reselects selection) :
    { table with selection := selection }.Sound := by
  obtain ⟨distinct, grouped, present, anchor, cursor, dragging⟩ := sound
  refine ⟨distinct, grouped, ?_⟩
  cases reselects with
  | cleared => exact selects_of_cleared rfl
  | started member bound =>
    refine ⟨fun key onRow => ?_, bound, bound, fun _ => rfl⟩
    exact Option.some.inj onRow ▸ List.mem_map_of_mem member
  | @extended point bound =>
    have extended : table.selection.extend point = table.selection ∨
        table.selection.extend point = { table.selection with cursor := point } := by
      unfold Selection.extend
      split
      · exact .inr rfl
      · exact .inl rfl
    rcases extended with same | moved
    · rw [same]
      exact ⟨present, anchor, cursor, dragging⟩
    · rw [moved]
      exact ⟨present, anchor, bound, dragging⟩
  | finished => exact ⟨present, anchor, cursor, nofun⟩
  | kept => exact ⟨present, anchor, cursor, dragging⟩

end TableState

end SessionBoard
