import SessionBoard.Proofs.Table.Interval
import SessionBoard.Proofs.Table.Spans
import SessionBoard.Proofs.Text.Fit

namespace SessionBoard

open SessionBoard.Text
open CellPoint (Between spanned pieces)

namespace Selection

variable {selection : Selection} {key : SessionId} {column length index : Nat}

/-- Whether a character is in the highlight. -/
def lights (highlight : Option (Nat × Nat)) (index : Nat) : Bool :=
  highlight.any fun (start, stop) => start ≤ index && index < stop

theorem lights_highlight (row : selection.rowKey = some key) :
    lights (selection.highlight key column length) index ↔
      index < length ∧ Between selection.anchor selection.cursor column index := by
  obtain ⟨start, stop, found, bounds⟩ := selection.highlight_bounds row column length
  rw [← bounds, found, lights]
  split
  · simp
  · simp only [Option.any_none, Bool.false_eq_true, false_iff]
    omega

theorem highlight_elsewhere (other : selection.rowKey ≠ some key) (column length : Nat) :
    selection.highlight key column length = none :=
  if_pos other

end Selection

theorem SessionRow.reversed_cellStyle (row : SessionRow) (column : Nat) :
    (row.cellStyle column).reversed = false := by
  unfold cellStyle
  split
  · rfl
  · split <;> rfl

namespace TableState

variable {table : TableState} {row : SessionRow} {column width index : Nat} {cell : List Char}

theorem rowKey_of_selectedRow? (selected : table.selectedRow? = some row) :
    table.selection.rowKey = some row.key := by
  unfold selectedRow? at selected
  split at selected
  · rename_i key onRow
    have found : row.key = key := by simpa using List.find?_some selected
    rw [onRow, found]
  · cases selected

/-- A character of a cell is drawn reversed exactly if it is in the highlight. -/
theorem reversed_charStyle (row : SessionRow) (highlight : Option (Nat × Nat)) (char : Char) :
    (charStyle (row.cellStyle column) highlight index char).reversed = Selection.lights highlight index := by
  rw [charStyle, row.reversed_cellStyle, Bool.false_or, Selection.lights]

theorem getElem?_drawn (table : TableState) (row : SessionRow) (column : Nat) (cell : List Char)
    (width index : Nat) : (drawn (table.rowCellSpans row column cell width))[index]? =
      (fit cell width)[index]?.map fun char => (char, charStyle (row.cellStyle column)
        (table.selection.highlight row.key column cell.length) index char) := by
  rw [drawn_rowCellSpans, List.getElem?_map, List.getElem?_zipIdx, Option.map_map, Nat.zero_add]
  rfl

/-- Of a cell that is not truncated the characters that are drawn reversed are those between the ends of the
selection. -/
theorem reversed_whole (onRow : table.selection.rowKey = some row.key) (fits : Width.ofText cell ≤ width) :
    ((drawn (table.rowCellSpans row column cell width)).filter (·.2.reversed)).map Prod.fst =
      spanned table.selection.anchor table.selection.cursor column cell := by
  have lit : ∀ item : Char × Nat, (charStyle (row.cellStyle column)
      (table.selection.highlight row.key column cell.length) item.2 item.1).reversed =
        decide (item.2 < cell.length ∧
          Between table.selection.anchor table.selection.cursor column item.2) := fun item => by
    rw [reversed_charStyle, Bool.eq_iff_iff, Selection.lights_highlight onRow, decide_eq_true_eq]
  rw [drawn_rowCellSpans, List.filter_map, List.map_map]
  simp only [Function.comp_def, lit]
  -- The padding comes after the last character, where no highlight reaches.
  rw [fit_of_le fits, List.zipIdx_append, List.filter_append, spanned]
  have blank : ((List.replicate (width - Width.ofText cell) ' ').zipIdx (0 + cell.length)).filter
      (fun item => decide (item.2 < cell.length ∧
        Between table.selection.anchor table.selection.cursor column item.2)) = [] := by
    refine List.filter_eq_nil_iff.mpr fun item member => ?_
    have past := List.le_snd_of_mem_zipIdx member
    rw [decide_eq_true_eq]
    omega
  rw [blank, List.append_nil]
  congr 1
  refine List.filter_congr fun item member => decide_eq_decide.mpr ?_
  have bound := List.snd_lt_add_of_mem_zipIdx member
  exact ⟨And.right, fun between => ⟨by omega, between⟩⟩

theorem reversed_elsewhere (other : table.selection.rowKey ≠ some row.key) :
    ∀ item ∈ drawn (table.rowSpans row), item.2.reversed = false := by
  intro item member
  rw [rowSpans_eq] at member
  rcases mem_drawn_gapped member with gap | ⟨spans, isCell, inside⟩
  · rw [gap]
    rfl
  · obtain ⟨place, _, rfl⟩ := List.mem_map.mp isCell
    rw [drawn_rowCellSpans, Selection.highlight_elsewhere other] at inside
    obtain ⟨_, _, rfl⟩ := List.mem_map.mp inside
    exact reversed_charStyle row none _

/-- What is drawn of a table and what is copied. -/
structure ShowsCopied (table : TableState) : Prop where
  line : ∀ row, table.rowSpans row = gapped (table.cellsOf row)
  text : ∀ row column cell width, textOf (table.rowCellSpans row column cell width) = fit cell width
  apart : ∀ row column cell width,
    (table.rowCellSpans row column cell width).IsChain fun span next => span.style ≠ next.style
  copied : ∀ row, table.selectedRow? = some row → table.selectedText =
    .ok (if pieces table.selection.anchor table.selection.cursor row.cells = [] then none
      else some (List.intercalate ['\t']
        (pieces table.selection.anchor table.selection.cursor row.cells)))
  /-- What is shown of the text of a cell is reversed where it is copied. -/
  reversed : ∀ row, table.selectedRow? = some row → ∀ column cell, row.cells[column]? = some cell →
    ∀ width, ∀ index < (shown cell width).length, ∃ char style, cell[index]? = some char ∧
      (drawn (table.rowCellSpans row column cell width))[index]? = some (char, style) ∧
      (style.reversed ↔ Between table.selection.anchor table.selection.cursor column index)
  /-- Nothing but that is reversed where nothing is left out. -/
  whole : ∀ row, table.selectedRow? = some row → ∀ column cell width, Width.ofText cell ≤ width →
    ((drawn (table.rowCellSpans row column cell width)).filter (·.2.reversed)).map Prod.fst =
      spanned table.selection.anchor table.selection.cursor column cell
  padding : ∀ row column cell width, Width.ofText cell ≤ width → ∀ index, cell.length ≤ index →
    ∀ item ∈ (drawn (table.rowCellSpans row column cell width))[index]?, item.2.reversed = false
  elsewhere : ∀ row, table.selection.rowKey ≠ some row.key →
    ∀ item ∈ drawn (table.rowSpans row), item.2.reversed = false
  others : (table.rows.map SessionRow.key).Nodup → ∀ row ∈ table.rows, table.selectedRow? ≠ some row →
    ∀ item ∈ drawn (table.rowSpans row), item.2.reversed = false

/-- What is drawn as selected is what is copied, however the columns are laid out. Drawing goes over the fitted
text of a cell and copying over the text itself, and both of them take the characters between the two ends of
the selection. -/
theorem reversed_as_copied (table : TableState) : table.ShowsCopied where
  line := table.rowSpans_eq
  text := table.textOf_rowCellSpans
  apart := fun _ _ _ _ => isChain_cellSpans 0 _
  copied := by
    intro row selected
    rw [selectedText, selected]
    exact Selection.selectedText_eq (rowKey_of_selectedRow? selected) (List.cons_ne_nil _ _)
  reversed := by
    intro row selected column cell atColumn width index bound
    have inCell : index < cell.length := Nat.lt_of_lt_of_le bound (isPrefix_shown cell width).length_le
    have char := List.getElem?_eq_getElem inCell
    refine ⟨cell[index], _, char, by rw [getElem?_drawn, getElem?_fit bound, char, Option.map_some], ?_⟩
    rw [reversed_charStyle, Selection.lights_highlight (rowKey_of_selectedRow? selected), and_iff_right inCell]
  whole := fun row selected column cell width => reversed_whole (rowKey_of_selectedRow? selected)
  padding := by
    intro row column cell width fits index past item member
    rw [getElem?_drawn] at member
    obtain ⟨char, _, rfl⟩ := Option.map_eq_some_iff.mp member
    rw [reversed_charStyle, Bool.eq_false_iff]
    intro lit
    by_cases onRow : table.selection.rowKey = some row.key
    · have inside := ((Selection.lights_highlight onRow).mp lit).1
      omega
    · rw [Selection.highlight_elsewhere onRow] at lit
      cases lit
  elsewhere := fun _ => reversed_elsewhere
  others := by
    intro distinct row member unselected
    exact reversed_elsewhere fun onRow => unselected (selectedRow?_of_nodup distinct member onRow)

end TableState

end SessionBoard
