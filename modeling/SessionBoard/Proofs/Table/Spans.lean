import Mathlib.Data.List.Chain
import SessionBoard.Table.Drawing

namespace SessionBoard

open SessionBoard.Text

/-- The text of some spans. -/
def textOf (spans : List Span) : List Char :=
  spans.flatMap Span.text

/-- The characters of some spans, each with its style. -/
def drawn (spans : List Span) : List (Char × Style) :=
  spans.flatMap fun span => span.text.map (·, span.style)

variable {char : Char} {style base : Style} {spans : List Span} {highlight : Option (Nat × Nat)}

theorem drawn_append (spans later : List Span) : drawn (spans ++ later) = drawn spans ++ drawn later :=
  List.flatMap_append

theorem textOf_append (spans later : List Span) : textOf (spans ++ later) = textOf spans ++ textOf later :=
  List.flatMap_append

theorem map_fst_drawn (spans : List Span) : (drawn spans).map Prod.fst = textOf spans := by
  simp only [drawn, textOf, List.map_flatMap, List.map_map, Function.comp_def, List.map_id_fun', id]

theorem textOf_cons (span : Span) (spans : List Span) : textOf (span :: spans) = span.text ++ textOf spans :=
  List.flatMap_cons

theorem drawn_consSpan : drawn (consSpan char style spans) = (char, style) :: drawn spans := by
  cases spans with
  | nil => rfl
  | cons span spans =>
    simp only [consSpan]
    split
    · rename_i same
      simp [drawn, same]
    · rfl

/-- Every character of a cell is drawn, once and in its place, whatever is highlighted. -/
theorem drawn_cellSpans (index : Nat) (text : List Char) :
    drawn (cellSpans base highlight index text) =
      (text.zipIdx index).map fun item => (item.1, charStyle base highlight item.2 item.1) := by
  induction text generalizing index with
  | nil => rfl
  | cons char text ih => rw [cellSpans, drawn_consSpan, ih, List.zipIdx_cons, List.map_cons]

theorem textOf_cellSpans (index : Nat) (text : List Char) :
    textOf (cellSpans base highlight index text) = text := by
  rw [← map_fst_drawn, drawn_cellSpans, List.map_map]
  exact List.zipIdx_map_fst index text

theorem isChain_consSpan (apart : spans.IsChain fun span next => span.style ≠ next.style) :
    (consSpan char style spans).IsChain fun span next => span.style ≠ next.style := by
  cases spans with
  | nil => exact .singleton _
  | cons span spans =>
    simp only [consSpan]
    split
    · rename_i same
      -- The span only gets longer.
      cases spans with
      | nil => exact .singleton _
      | cons next spans =>
        rw [List.isChain_cons_cons] at apart ⊢
        exact ⟨same ▸ apart.1, apart.2⟩
    · rename_i other
      exact .cons_cons (Ne.symm other) apart

theorem isChain_cellSpans (index : Nat) (text : List Char) :
    (cellSpans base highlight index text).IsChain fun span next => span.style ≠ next.style := by
  induction text generalizing index with
  | nil => exact .nil
  | cons char text ih => exact isChain_consSpan (ih (index + 1))

/-- What stands between two cells. -/
def gapSpan : Span :=
  { text := List.replicate Column.gap ' ' }

theorem gapped_cons {cell : List Span} {cells : List (List Span)} (more : cells ≠ []) :
    gapped (cell :: cells) = cell ++ gapSpan :: gapped cells := by
  cases cells with
  | nil => exact absurd rfl more
  | cons next cells => rfl

/-- Outside of the cells nothing has a style. -/
theorem mem_drawn_gapped {item : Char × Style} {cells : List (List Span)}
    (member : item ∈ drawn (gapped cells)) : item.2 = .plain ∨ ∃ cell ∈ cells, item ∈ drawn cell := by
  induction cells with
  | nil => cases member
  | cons cell cells ih =>
    rcases eq_or_ne cells [] with rfl | more
    · exact .inr ⟨cell, List.mem_cons_self, member⟩
    · rw [gapped_cons more, ← List.singleton_append, drawn_append, drawn_append, List.mem_append,
        List.mem_append] at member
      rcases member with first | gap | later
      · exact .inr ⟨cell, List.mem_cons_self, first⟩
      · exact .inl (by simp_all [drawn, gapSpan])
      · exact (ih later).imp_right fun ⟨other, isCell, inside⟩ =>
          ⟨other, List.mem_cons_of_mem _ isCell, inside⟩

theorem textOf_gapped (cells : List (List Span)) :
    textOf (gapped cells) = gapSpan.text.intercalate (cells.map textOf) := by
  induction cells with
  | nil => rfl
  | cons cell cells ih =>
    rcases eq_or_ne cells [] with rfl | more
    · rw [List.map_singleton, List.intercalate_singleton, gapped]
    · rw [gapped_cons more, textOf_append, textOf_cons, ih, List.map_cons,
        List.intercalate_cons_of_ne_nil (List.map_eq_nil_iff.not.mpr more), List.append_assoc]

namespace TableState

theorem cellsFrom_eq (table : TableState) (row : SessionRow) (column : Nat)
    (items : List (List Char × Nat)) : table.cellsFrom row column items =
      (items.zipIdx column).map fun item => table.rowCellSpans row item.2 item.1.1 item.1.2 := by
  induction items generalizing column with
  | nil => rfl
  | cons item items ih => rw [cellsFrom, ih, List.zipIdx_cons, List.map_cons]

/-- The cells of a line. -/
def cellsOf (table : TableState) (row : SessionRow) : List (List Span) :=
  (row.cells.zip table.layout.widths).zipIdx.map fun item =>
    table.rowCellSpans row item.2 item.1.1 item.1.2

theorem rowSpans_eq (table : TableState) (row : SessionRow) :
    table.rowSpans row = gapped (table.cellsOf row) := by
  rw [rowSpans, cellsFrom_eq, cellsOf]

theorem drawn_rowCellSpans (table : TableState) (row : SessionRow) (column : Nat) (cell : List Char)
    (width : Nat) : drawn (table.rowCellSpans row column cell width) =
      (fit cell width).zipIdx.map fun item => (item.1, charStyle (row.cellStyle column)
        (table.selection.highlight row.key column cell.length) item.2 item.1) :=
  drawn_cellSpans 0 _

theorem textOf_rowCellSpans (table : TableState) (row : SessionRow) (column : Nat) (cell : List Char)
    (width : Nat) : textOf (table.rowCellSpans row column cell width) = fit cell width :=
  textOf_cellSpans 0 _

/-- Every cell is fitted into its column. -/
theorem map_textOf_cellsOf (table : TableState) (row : SessionRow) : (table.cellsOf row).map textOf =
    (row.cells.zip table.layout.widths).map fun item => fit item.1 item.2 := by
  rw [cellsOf, List.map_map, ← List.zipIdx_map_fst 0 (row.cells.zip table.layout.widths), List.map_map,
    List.zipIdx_map_fst]
  exact List.map_congr_left fun item _ => table.textOf_rowCellSpans row item.2 item.1.1 item.1.2

end TableState

end SessionBoard
