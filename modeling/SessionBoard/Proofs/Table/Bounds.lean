import SessionBoard.Proofs.Checked
import SessionBoard.Table.Drawing
import SessionBoard.Table.Input

namespace SessionBoard

namespace ColumnLayout

theorem length_startsFrom (x : Nat) (widths : List Nat) :
    (startsFrom x widths).length = widths.length := by
  induction widths generalizing x with
  | nil => rfl
  | cons width widths ih => simp only [startsFrom, List.length_cons, ih]

theorem find?_lt {x index column distance : Nat} {columns : List (Nat × Nat)}
    (found : find? x index columns = some (column, distance)) : column < index + columns.length := by
  induction columns generalizing index with
  | nil => cases found
  | cons first columns ih =>
    obtain ⟨start, width⟩ := first
    rw [List.length_cons]
    unfold find? at found
    split at found
    · cases found
      omega
    · have := ih found
      omega

/-- Where no column ends past a point all of them end before it. -/
theorem le_of_find?_eq_none {x index start width : Nat} {columns : List (Nat × Nat)}
    (none : find? x index columns = none) (member : (start, width) ∈ columns) : start + width ≤ x := by
  induction columns generalizing index with
  | nil => cases member
  | cons first columns ih =>
    unfold find? at none
    split at none
    · cases none
    · rename_i past
      rcases List.mem_cons.mp member with rfl | later
      · exact Nat.not_lt.mp past
      · exact ih none later

theorem length_columns (widths : List Nat) :
    ((ofWidths widths).starts.zip (ofWidths widths).widths).length = widths.length := by
  simp only [ofWidths, List.length_zip, length_startsFrom, Nat.min_self]

/-- Every point of a line belongs to a column. -/
theorem columnAt_ok {widths : List Nat} (some_column : 0 < widths.length) (x : Nat) :
    ∃ column distance, (ofWidths widths).columnAt x = .ok (column, distance) ∧
      column < widths.length := by
  unfold columnAt
  cases found : find? x 0 ((ofWidths widths).starts.zip (ofWidths widths).widths) with
  | some place =>
    have bound := find?_lt found
    rw [length_columns, Nat.zero_add] at bound
    exact ⟨place.1, place.2, rfl, bound⟩
  | none =>
    have size : (ofWidths widths).starts.length = widths.length := length_startsFrom 0 widths
    have within : widths.length - 1 <
        ((ofWidths widths).starts.zip (ofWidths widths).widths).length := by
      rw [length_columns]
      omega
    have member := List.getElem_mem within
    rw [List.getElem_zip] at member
    have past := Nat.le_of_add_right_le (le_of_find?_eq_none found member)
    have last : Checked.sub (ofWidths widths).widths.length 1 = .ok (widths.length - 1) :=
      if_pos some_column
    have start := Checked.get_eq_ok.mpr (List.getElem?_eq_getElem (by omega :
      widths.length - 1 < (ofWidths widths).starts.length))
    have distance : Checked.sub x (ofWidths widths).starts[widths.length - 1] =
        .ok (x - (ofWidths widths).starts[widths.length - 1]) := if_pos past
    refine ⟨widths.length - 1, x - (ofWidths widths).starts[widths.length - 1], ?_, by omega⟩
    simp only [last, start, distance, Except.bind, bind]
    rfl

end ColumnLayout

theorem SessionRow.length_cells (row : SessionRow) : row.cells.length = 6 :=
  rfl

/-- The ends of a selection may lie past the last column. -/
theorem Selection.selectedText_answers (selection : Selection) {cells : List (List Char)}
    (some_cell : 0 < cells.length) : (selection.selectedText cells).Answers := by
  unfold selectedText
  split
  · refine .bind (.mapM fun column member => ?_) fun pieces _ => .ok _
    have bound : column < cells.length := by
      rw [List.mem_range'_1] at member
      omega
    exact .bind (Checked.get_answers bound) fun cell _ => .ok _
  · exact .ok none

namespace TableState

variable (table : TableState)

theorem visibleRows_eq :
    table.visibleRows =
      .ok ((table.rows.drop table.scrollOffset).take table.viewportHeight) := by
  unfold visibleRows Checked.slice
  rw [if_pos (by omega)]
  congr 1
  rcases Nat.le_total table.scrollOffset table.rows.length with within | past
  · rw [Nat.min_eq_left within, List.take_eq_take_iff, List.length_drop]
    omega
  · rw [Nat.min_eq_right past, List.drop_eq_nil_of_le past, List.drop_length]
    simp only [List.take_nil]

/-- A line is drawn for every row in view. -/
theorem draw_eq (width height : Nat) :
    table.draw width height = .ok (fillArea width height
      (((table.rows.drop table.scrollOffset).take table.viewportHeight).map fun row =>
        drawSpans width (table.rowSpans row))) := by
  rw [draw, visibleRows_eq]
  rfl

theorem pointOn_answers (row : SessionRow) (x : Nat) : (table.pointOn row x).Answers := by
  have some_column : 0 < table.layout.widths.length := Nat.zero_lt_succ 5
  obtain ⟨column, distance, found, bound⟩ :
      ∃ column distance, table.layout.columnAt x = .ok (column, distance) ∧ column < 6 :=
    ColumnLayout.columnAt_ok some_column x
  refine .bind ⟨_, found⟩ fun place atPlace => ?_
  cases found.symm.trans atPlace
  exact .bind (Checked.get_answers bound) fun cell _ => .ok _

variable {table} in
theorem column_pointOn {row : SessionRow} {x : Nat} {point : CellPoint}
    (found : table.pointOn row x = .ok point) : point.column < 6 := by
  obtain ⟨place, _, rest⟩ := Checked.bind_eq_ok.mp found
  obtain ⟨cell, atColumn, same⟩ := Checked.bind_eq_ok.mp rest
  cases same
  obtain ⟨bound, _⟩ := List.getElem?_eq_some_iff.mp (Checked.get_eq_ok.mp atColumn)
  exact bound

theorem hitTest_answers (line x : Nat) : (table.hitTest line x).Answers := by
  refine .bind ⟨_, table.visibleRows_eq⟩ fun rows _ => ?_
  cases rows[line]? with
  | none => exact .ok none
  | some row => exact .bind (table.pointOn_answers row x) fun point _ => .ok _

theorem pointOnSelectedRow_answers (x : Nat) : (table.pointOnSelectedRow x).Answers := by
  unfold pointOnSelectedRow
  cases table.selectedRow? with
  | none => exact .ok none
  | some row =>
    obtain ⟨point, found⟩ := table.pointOn_answers row x
    exact ⟨some point, by simp only [found]; rfl⟩

theorem selectedText_answers : table.selectedText.Answers := by
  unfold selectedText
  cases table.selectedRow? with
  | none => exact .ok none
  | some row => exact table.selection.selectedText_answers (by rw [row.length_cells]; omega)

theorem onPress_answers (screen : Screen) (x y : Nat) : (table.onPress screen x y).Answers := by
  unfold onPress
  cases screen.bodyLineAt y with
  | none => exact .ok _
  | some line =>
    refine .bind (table.hitTest_answers line x) fun hit _ => ?_
    cases hit <;> exact .ok _

theorem onDrag_answers (x : Nat) : (table.onDrag x).Answers := by
  unfold onDrag
  split
  · exact .ok table
  · refine .bind (table.pointOnSelectedRow_answers x) fun point _ => ?_
    cases point <;> exact .ok _

theorem onRelease_answers : table.onRelease.Answers := by
  unfold onRelease
  split
  · exact .ok (table, none)
  · exact .bind (selectedText_answers _) fun text _ => .ok _

theorem onMouse_answers (screen : Screen) (mouse : MouseEvent) :
    (table.onMouse screen mouse).Answers := by
  unfold onMouse
  split
  case h_3 => exact .bind (table.onPress_answers screen mouse.x mouse.y) fun pressed _ => .ok _
  case h_4 => exact .bind (table.onDrag_answers mouse.x) fun dragged _ => .ok _
  case h_5 => exact table.onRelease_answers
  all_goals exact .ok _

end TableState

end SessionBoard
