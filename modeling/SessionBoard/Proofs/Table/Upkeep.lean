import SessionBoard.Proofs.Table.Bounds
import SessionBoard.Proofs.Table.Reconcile
import SessionBoard.Proofs.Uptime

namespace SessionBoard

namespace SessionRow

variable {row : SessionRow} {record : SessionRecord} {context : RowContext}

/-- The uptime counts from the start that the record tells. -/
def OnTime (row : SessionRow) : Prop :=
  row.uptime.startedAt = row.record.startedAt

theorem onTime_create : (create record context).1.OnTime :=
  rfl

theorem onTime_update : (row.update record context).1.1.OnTime := by
  unfold update
  dsimp only
  split
  · assumption
  · rfl

theorem changed_update : (row.update record context).1.2 = (row.record != record) := by
  unfold update
  dsimp only
  split <;> rfl

/-- A row is the same after an update by which nothing changed. -/
theorem update_eq_self (onTime : row.OnTime) (unchanged : (row.update record context).1.2 = false) :
    (row.update record context).1.1 = row := by
  rw [changed_update, bne_eq_false_iff_eq] at unchanged
  subst unchanged
  have sameStart : row.uptime.startedAt = row.record.startedAt := onTime
  simp only [update, sameStart, if_true]

/-- The row without the cadence of its uptime: this is what can be seen of it. -/
def still (row : SessionRow) : SessionRow :=
  { row with uptime := row.uptime.still }

/-- The row after its uptime was polled. -/
def polled (now : Clock) (row : SessionRow) : SessionRow :=
  { row with uptime := (row.uptime.poll now).1 }

theorem OnTime.polled (onTime : row.OnTime) (now : Clock) : (row.polled now).OnTime :=
  (LiveTime.startedAt_poll _ now).trans onTime

end SessionRow

namespace TableState

variable {table table' : TableState} {now : Clock} {snapshot : Snapshot}

theorem rows_tickRows (now : Clock) (rows : List SessionRow) (selection : Selection) :
    (tickRows now rows selection).1.1 = rows.map (SessionRow.polled now) := by
  induction rows generalizing selection with
  | nil => rfl
  | cons row rows ih =>
    rw [List.map_cons, ← ih]
    rfl

theorem rows_tick (table : TableState) (now : Clock) :
    (table.tick now).1.rows = table.rows.map (SessionRow.polled now) :=
  rows_tickRows ..

theorem polled_mem_tick {row : SessionRow} (member : row ∈ table.rows) (now : Clock) :
    row.polled now ∈ (table.tick now).1.rows := by
  rw [rows_tick]
  exact List.mem_map_of_mem member

/-- A tick that reports no change leaves every row as it is seen, and the selection. -/
theorem tickRows_unchanged {rows : List SessionRow} {selection : Selection}
    (unchanged : (tickRows now rows selection).2 = false) :
    (tickRows now rows selection).1.1.map SessionRow.still = rows.map SessionRow.still ∧
      (tickRows now rows selection).1.2 = selection := by
  induction rows with
  | nil => exact ⟨rfl, rfl⟩
  | cons row rows ih =>
    simp only [tickRows, Bool.or_eq_false_iff] at unchanged ⊢
    obtain ⟨first, rest⟩ := unchanged
    simp only [first, Bool.false_eq_true, if_false] at rest ⊢
    obtain ⟨rowsSame, selectionSame⟩ := ih rest
    have firstSame : (row.polled now).still = row.still :=
      congrArg (SessionRow.mk row.record) (row.uptime.still_poll now first)
    refine ⟨?_, selectionSame⟩
    rw [List.map_cons, List.map_cons, rowsSame, ← firstSame]
    rfl

/-- Every uptime counts from the start of its session, and the table is not scrolled past its end. -/
structure Kept (table : TableState) : Prop where
  onTime : ∀ row ∈ table.rows, row.OnTime
  scroll : table.scrollOffset ≤ table.maxScroll

theorem kept_start (now : Clock) (tick : Nat) : (start now tick).Kept where
  onTime := by simp [start]
  scroll := Nat.zero_le _

theorem kept_clampScroll (onTime : ∀ row ∈ table.rows, row.OnTime) : table.clampScroll.Kept where
  onTime := onTime
  scroll := Nat.min_le_right ..

/-- There is nothing to clamp where the table is not scrolled past its end. -/
theorem Kept.clampScroll_eq (kept : table.Kept) : table.clampScroll = table := by
  rw [clampScroll, Nat.min_eq_left kept.scroll]

theorem Kept.withSelection (kept : table.Kept) (selection : Selection) :
    { table with selection := selection }.Kept :=
  ⟨kept.onTime, kept.scroll⟩

theorem Kept.scrollBy (kept : table.Kept) (delta : Int) : (table.scrollBy delta).Kept :=
  ⟨kept.onTime, Nat.min_le_right ..⟩

/-- Keys scroll. -/
theorem onKey_eq {key : Key} (answered : table.onKey key = some table') :
    ∃ offset, table' = { table with scrollOffset := offset } := by
  cases key <;> cases answered <;> exact ⟨_, rfl⟩

theorem Kept.onKey (kept : table.Kept) {key : Key} (answered : table.onKey key = some table') :
    table'.Kept := by
  cases key <;> cases answered
  case up | down | pageUp | pageDown => exact kept.scrollBy _
  case home => exact ⟨kept.onTime, Nat.zero_le _⟩
  case bottom => exact ⟨kept.onTime, Nat.le_refl _⟩

theorem Kept.setViewport (kept : table.Kept) (width height : Nat) : (table.setViewport width height).Kept :=
  kept_clampScroll kept.onTime

theorem kept_applySnapshot (table : TableState) (snapshot : Snapshot) (now : Clock) :
    (table.applySnapshot snapshot now).1.Kept :=
  kept_clampScroll <| SessionRow.kind.forall_reconcile
    (fun _ _ _ => SessionRow.onTime_update) (fun _ _ => SessionRow.onTime_create)

theorem Kept.tick (kept : table.Kept) (now : Clock) : (table.tick now).1.Kept where
  onTime := by
    intro row member
    rw [rows_tick] at member
    obtain ⟨row, earlier, rfl⟩ := List.mem_map.mp member
    exact (kept.onTime row earlier).polled now
  scroll := by
    rw [maxScroll, rows_tick, List.length_map]
    exact kept.scroll

/-- What the left button makes of the selection. -/
inductive Reselects (table : TableState) : Selection → Prop
  | cleared : Reselects table .cleared
  | started {row : SessionRow} {point : CellPoint} (member : row ∈ table.rows)
      (bound : point.column < 6) : Reselects table (.start row.key point)
  | extended {point : CellPoint} (bound : point.column < 6) :
      Reselects table (table.selection.extend point)
  | finished : Reselects table table.selection.finish
  | kept : Reselects table table.selection

theorem of_hitTest {line x : Nat} {key : SessionId} {point : CellPoint}
    (hit : table.hitTest line x = .ok (some (key, point))) :
    ∃ row ∈ table.rows, row.key = key ∧ point.column < 6 := by
  obtain ⟨visible, found, rest⟩ := Checked.bind_eq_ok.mp hit
  cases found.symm.trans table.visibleRows_eq
  split at rest
  · cases rest
  · rename_i row atLine
    obtain ⟨place, onRow, same⟩ := Checked.bind_eq_ok.mp rest
    cases same
    have inView := List.mem_of_getElem? atLine
    exact ⟨row, List.mem_of_mem_drop (List.mem_of_mem_take inView), rfl, column_pointOn onRow⟩

theorem onPress_eq {screen : Screen} {x y : Nat} (pressed : table.onPress screen x y = .ok table') :
    ∃ selection, table.Reselects selection ∧ table' = { table with selection := selection } := by
  unfold onPress at pressed
  split at pressed
  · obtain ⟨hit, found, rest⟩ := Checked.bind_eq_ok.mp pressed
    cases hit with
    | none =>
      cases rest
      exact ⟨_, .cleared, rfl⟩
    | some place =>
      cases rest
      obtain ⟨row, member, key, bound⟩ := of_hitTest found
      exact ⟨_, key ▸ .started member bound, rfl⟩
  · cases pressed
    exact ⟨_, .cleared, rfl⟩

theorem onDrag_eq {x : Nat} (dragged : table.onDrag x = .ok table') :
    ∃ selection, table.Reselects selection ∧ table' = { table with selection := selection } := by
  unfold onDrag at dragged
  split at dragged
  · cases dragged
    exact ⟨_, .kept, rfl⟩
  · obtain ⟨point, found, rest⟩ := Checked.bind_eq_ok.mp dragged
    unfold pointOnSelectedRow at found
    split at found
    · obtain ⟨place, onRow, same⟩ := Checked.bind_eq_ok.mp found
      cases same
      cases rest
      exact ⟨_, .extended (column_pointOn onRow), rfl⟩
    · cases found
      cases rest
      exact ⟨_, .kept, rfl⟩

theorem onRelease_eq {effect : Option Effect} (released : table.onRelease = .ok (table', effect)) :
    ∃ selection, table.Reselects selection ∧ table' = { table with selection := selection } := by
  unfold onRelease at released
  split at released
  · cases released
    exact ⟨_, .kept, rfl⟩
  · obtain ⟨text, _, rest⟩ := Checked.bind_eq_ok.mp released
    cases rest
    exact ⟨_, .finished, rfl⟩

/-- The mouse scrolls, or its left button changes the selection, and nothing else. -/
theorem onMouse_eq {screen : Screen} {mouse : MouseEvent} {effect : Option Effect}
    (moved : table.onMouse screen mouse = .ok (table', effect)) :
    (∃ delta, table' = table.scrollBy delta) ∨ table' = table ∨
      mouse.action ∈ [.down .left, .drag .left, .up .left] ∧
        ∃ selection, table.Reselects selection ∧ table' = { table with selection := selection } := by
  obtain ⟨action, x, y⟩ := mouse
  unfold onMouse at moved
  split at moved
  case h_1 | h_2 =>
    cases moved
    exact .inl ⟨_, rfl⟩
  case h_3 =>
    obtain ⟨pressed, found, rest⟩ := Checked.bind_eq_ok.mp moved
    cases rest
    exact .inr (.inr ⟨by simp_all, onPress_eq found⟩)
  case h_4 =>
    obtain ⟨dragged, found, rest⟩ := Checked.bind_eq_ok.mp moved
    cases rest
    exact .inr (.inr ⟨by simp_all, onDrag_eq found⟩)
  case h_5 => exact .inr (.inr ⟨by simp_all, onRelease_eq moved⟩)
  all_goals
    cases moved
    exact .inr (.inl rfl)

theorem Kept.onMouse (kept : table.Kept) {screen : Screen} {mouse : MouseEvent}
    {effect : Option Effect} (moved : table.onMouse screen mouse = .ok (table', effect)) :
    table'.Kept := by
  rcases onMouse_eq moved with ⟨delta, rfl⟩ | rfl | ⟨_, selection, _, rfl⟩
  · exact kept.scrollBy delta
  · exact kept
  · exact kept.withSelection selection

/-- The table without the cadence of its uptimes and without what new rows are built from. -/
def picture (table : TableState) : TableState :=
  { table with rows := table.rows.map SessionRow.still, context := default }

theorem picture_tick (unchanged : (table.tick now).2 = false) :
    (table.tick now).1.picture = table.picture := by
  obtain ⟨rows, selection⟩ := tickRows_unchanged unchanged
  simp only [picture, tick, rows, selection]

/-- The selection stays with its row. -/
theorem selection_applySnapshot (stays : ∀ key, table.selection.rowKey = some key →
    key ∉ (table.applySnapshot snapshot now).2.removed) :
    (table.applySnapshot snapshot now).1.selection = table.selection := by
  unfold applySnapshot at stays ⊢
  dsimp only [clampScroll] at stays ⊢
  split
  · rename_i key selected
    exact if_neg (stays key selected)
  · rfl

/-- A snapshot that reports no change leaves everything but what new rows are built from. -/
theorem applySnapshot_eq (kept : table.Kept)
    (unchanged : (table.applySnapshot snapshot now).2.isUnchanged) :
    ∃ context, (table.applySnapshot snapshot now).1 = { table with context := context } := by
  have rows := SessionRow.kind.map_reconcile_of_isUnchanged id
    (fun row member _ _ => SessionRow.update_eq_self (kept.onTime row member)) unchanged
  have selection : (table.applySnapshot snapshot now).1.selection = table.selection := by
    refine selection_applySnapshot fun key _ => ?_
    rw [ReconcileReport.removed_eq_nil unchanged]
    exact List.not_mem_nil
  have parts : (table.applySnapshot snapshot now).1 = clampScroll { table with
      rows := (table.applySnapshot snapshot now).1.rows
      context := (table.applySnapshot snapshot now).1.context
      selection := (table.applySnapshot snapshot now).1.selection } := rfl
  refine ⟨(table.applySnapshot snapshot now).1.context, parts.trans ?_⟩
  have same : { table with context := (table.applySnapshot snapshot now).1.context }.Kept :=
    ⟨kept.onTime, kept.scroll⟩
  rw [List.map_id, List.map_id] at rows
  rw [selection, show (table.applySnapshot snapshot now).1.rows = table.rows from rows]
  exact same.clampScroll_eq

theorem picture_applySnapshot (kept : table.Kept)
    (unchanged : (table.applySnapshot snapshot now).2.isUnchanged) :
    (table.applySnapshot snapshot now).1.picture = table.picture := by
  obtain ⟨context, same⟩ := applySnapshot_eq kept unchanged
  rw [same]
  rfl

theorem layout_picture (table : TableState) : table.picture.layout = table.layout := by
  simp only [layout, picture, ColumnLayout.ofRows, List.map_map]
  rfl

theorem titleSpans_picture (table : TableState) : table.picture.titleSpans = table.titleSpans := by
  rw [titleSpans, titleSpans, layout_picture]

theorem cellsFrom_picture (table : TableState) (row : SessionRow) (column : Nat)
    (cells : List (List Char × Nat)) :
    table.picture.cellsFrom row.still column cells = table.cellsFrom row column cells := by
  induction cells generalizing column with
  | nil => rfl
  | cons cell cells ih =>
    simp only [cellsFrom, ih]
    rfl

/-- Nothing is drawn that cannot be seen. -/
theorem draw_picture (table : TableState) (width height : Nat) :
    table.picture.draw width height = table.draw width height := by
  have line : (fun row => drawSpans width (table.picture.rowSpans row)) ∘ SessionRow.still =
      fun row => drawSpans width (table.rowSpans row) := by
    funext row
    simp only [Function.comp, rowSpans, layout_picture]
    exact congrArg (fun cells => drawSpans width (gapped cells)) (table.cellsFrom_picture row 0 _)
  have view : (table.picture.rows.drop table.scrollOffset).take table.viewportHeight =
      ((table.rows.drop table.scrollOffset).take table.viewportHeight).map SessionRow.still := by
    rw [List.map_take, List.map_drop]
    rfl
  rw [draw_eq, draw_eq, ← line, ← List.map_map, ← view]
  rfl

end TableState

end SessionBoard
