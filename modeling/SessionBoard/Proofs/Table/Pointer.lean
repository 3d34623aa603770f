import SessionBoard.Proofs.Table.Columns
import SessionBoard.Proofs.Table.Window
import SessionBoard.Proofs.Text.Fit

namespace SessionBoard

open SessionBoard.Text

/-- A column of a cell that is shown in a width hits the character that covers it. -/
structure HitsShown (text : List Char) (width : Nat) : Prop where
  kept : ∀ index column, Covers (fit text width) index column → index < (shown text width).length →
    charIndexAt text column = index
  /-- A column of the ellipsis hits what is left out, or the end. -/
  ellipsis : ∀ column, width < Width.ofText text → Covers (fit text width) (shown text width).length column →
    (shown text width).length ≤ charIndexAt text column
  padding : ∀ index column, Width.ofText text ≤ width → Covers (fit text width) index column →
    text.length ≤ index → charIndexAt text column = text.length

theorem hitsShown (text : List Char) (width : Nat) : HitsShown text width where
  kept := by
    rintro index column ⟨least, most⟩ bound
    rw [take_fit (Nat.le_of_lt bound)] at least
    rw [take_fit bound] at most
    exact charIndexAt_of_covers ⟨least, most⟩ (Nat.lt_of_lt_of_le bound (isPrefix_shown text width).length_le)
  ellipsis := by
    rintro column - ⟨least, -⟩
    rw [take_fit (Nat.le_refl _)] at least
    exact le_charIndexAt_iff.mpr ⟨(isPrefix_shown text width).length_le, least⟩
  padding := by
    rintro index column fits ⟨least, -⟩ past
    refine charIndexAt_of_spread_le (Nat.le_trans ?_ least)
    rw [fit_of_le fits, List.take_append, List.take_of_length_le past, Width.spread_append]
    exact Nat.le_add_right _ _

theorem getElem?_fillArea {width height line : Nat} (lines : List (List Cell)) (bound : line < height) :
    (fillArea width height lines)[line]? = some (lines[line]?.getD (blankLine width)) := by
  unfold fillArea
  rcases Nat.lt_or_ge line lines.length with within | past
  · have kept : line < (lines.take height).length := by
      rw [List.length_take]
      omega
    rw [List.getElem?_append_left kept, List.getElem?_take_of_lt bound, List.getElem?_eq_getElem within,
      Option.getD_some]
  · rw [List.take_of_length_le (by omega), List.getElem?_append_right past,
      List.getElem?_replicate_of_lt (by omega), List.getElem?_eq_none past, Option.getD_none]

namespace TableState

variable {table table' table'' : TableState} {row : SessionRow} {line x y : Nat} {p q : CellPoint}

theorem pointOn_eq (table : TableState) (row : SessionRow) (x : Nat) : ∃ column distance cell,
    ColumnLayout.Finds table.layout.widths x column distance ∧ row.cells[column]? = some cell ∧
      table.pointOn row x = .ok ⟨column, charIndexAt cell distance⟩ := by
  obtain ⟨point, found⟩ := table.pointOn_answers row x
  obtain ⟨⟨column, distance⟩, place, rest⟩ := Checked.bind_eq_ok.mp found
  obtain ⟨cell, atColumn, same⟩ := Checked.bind_eq_ok.mp rest
  cases same
  exact ⟨column, distance, cell, ColumnLayout.finds_of_columnAt place, Checked.get_eq_ok.mp atColumn, found⟩

theorem pointOn_mono (le : x ≤ y) (first : table.pointOn row x = .ok p) (second : table.pointOn row y = .ok q) :
    p ≤ q := by
  obtain ⟨column, distance, cell, finds, atColumn, found⟩ := table.pointOn_eq row x
  obtain ⟨column', distance', cell', finds', atColumn', found'⟩ := table.pointOn_eq row y
  cases first.symm.trans found
  cases second.symm.trans found'
  rcases finds.mono finds' le with before | ⟨rfl, further⟩
  · exact .inl before
  · cases atColumn.symm.trans atColumn'
    exact .inr ⟨rfl, charIndexAt_mono cell further⟩

theorem hitTest_of_rowOn (drawn : table.rowOn line = some row) (x : Nat) :
    ∃ point, table.pointOn row x = .ok point ∧ table.hitTest line x = .ok (some (row.key, point)) := by
  obtain ⟨point, found⟩ := table.pointOn_answers row x
  refine ⟨point, found, ?_⟩
  rw [hitTest, visibleRows_eq]
  simp only [bind, Except.bind, getElem?_visible, drawn, found]
  rfl

theorem hitTest_of_rowOn_none (blank : table.rowOn line = none) (x : Nat) :
    table.hitTest line x = .ok none := by
  rw [hitTest, visibleRows_eq]
  simp only [bind, Except.bind, getElem?_visible, blank]
  rfl

/-- The line is blank where there is no row. -/
theorem getElem?_draw (table : TableState) (width : Nat) {line : Nat} (bound : line < table.viewportHeight) :
    ∃ lines, table.draw width table.viewportHeight = .ok lines ∧
      lines[line]? = some ((table.rowOn line).elim (blankLine width)
        fun row => drawSpans width (table.rowSpans row)) := by
  refine ⟨_, table.draw_eq width table.viewportHeight, ?_⟩
  rw [getElem?_fillArea _ bound, List.getElem?_map, getElem?_visible]
  cases table.rowOn line <;> rfl

theorem onDrag_of_selecting (selecting : table.selection.selecting = true)
    (selected : table.selectedRow? = some row) (found : table.pointOn row x = .ok p) :
    table.onDrag x = .ok { table with selection := { table.selection with cursor := p } } := by
  have point : table.pointOnSelectedRow x = .ok (some p) := by
    rw [pointOnSelectedRow, selected]
    simp only [found]
    rfl
  simp only [onDrag, selecting, point, Selection.extend, bind, Except.bind]
  rfl

theorem onDrag_of_idle (idle : table.selection.selecting = false ∨ table.selectedRow? = none) :
    table.onDrag x = .ok table := by
  by_cases selecting : table.selection.selecting = true
  · have none : table.pointOnSelectedRow x = .ok none := by
      rw [pointOnSelectedRow, idle.resolve_left (by simp [selecting])]
    simp only [onDrag, selecting, none, bind, Except.bind]
    rfl
  · simp only [onDrag, selecting, bind, Except.bind]
    rfl

/-- Dragged to the right, the free end of the selection does not go to the left. -/
theorem cursor_onDrag_mono (le : x ≤ y) (first : table.onDrag x = .ok table')
    (second : table'.onDrag y = .ok table'') : table'.selection.cursor ≤ table''.selection.cursor := by
  by_cases idle : table.selection.selecting = false ∨ table.selectedRow? = none
  · rw [onDrag_of_idle idle] at first
    cases first
    rw [onDrag_of_idle idle] at second
    cases second
    exact .inr ⟨rfl, Nat.le_refl _⟩
  · simp only [not_or, Bool.not_eq_false, ← ne_eq, Option.ne_none_iff_exists'] at idle
    obtain ⟨selecting, row, selected⟩ := idle
    obtain ⟨p, atX⟩ := table.pointOn_answers row x
    obtain ⟨q, atY⟩ := table.pointOn_answers row y
    rw [onDrag_of_selecting selecting selected atX] at first
    cases first
    -- The first drag changes nothing that the second one goes by.
    have again : { table with selection := { table.selection with cursor := p } }.onDrag y = .ok _ :=
      onDrag_of_selecting selecting selected atY
    cases again.symm.trans second
    exact pointOn_mono le atX atY

/-- What the pointer is told is what is drawn under it: a line of the view hits the row that is drawn on it, a
column hits the character that is drawn there, and a drag to the right never moves the free end of the selection
to the left. -/
structure PointsAtDrawn (table : TableState) : Prop where
  drawn : ∀ width, ∀ line < table.viewportHeight,
    ∃ lines, table.draw width table.viewportHeight = .ok lines ∧
      lines[line]? = some ((table.rowOn line).elim (blankLine width)
        fun row => drawSpans width (table.rowSpans row))
  hit : ∀ line row, table.rowOn line = some row → ∀ x, ∃ point, table.pointOn row x = .ok point ∧
    table.hitTest line x = .ok (some (row.key, point))
  missed : ∀ line, table.rowOn line = none → ∀ x, table.hitTest line x = .ok none
  /-- A point of a row lies in a column of the layout, in the cell that is drawn in it. -/
  point : ∀ row x, ∃ column distance cell,
    ColumnLayout.Finds table.layout.widths x column distance ∧ row.cells[column]? = some cell ∧
      table.pointOn row x = .ok ⟨column, charIndexAt cell distance⟩
  char : ∀ text width, HitsShown text width
  ordered : ∀ row x y p q, x ≤ y → table.pointOn row x = .ok p → table.pointOn row y = .ok q → p ≤ q
  dragged : ∀ x y table' table'', x ≤ y → table.onDrag x = .ok table' → table'.onDrag y = .ok table'' →
    table'.selection.cursor ≤ table''.selection.cursor

theorem pointsAtDrawn (table : TableState) : table.PointsAtDrawn where
  drawn := fun width _ => table.getElem?_draw width
  hit := fun _ _ => hitTest_of_rowOn
  missed := fun _ => hitTest_of_rowOn_none
  point := table.pointOn_eq
  char := hitsShown
  ordered := fun _ _ _ _ _ => pointOn_mono
  dragged := fun _ _ _ _ => cursor_onDrag_mono

end TableState

end SessionBoard
