import SessionBoard.Proofs.Table.Columns
import SessionBoard.Proofs.Table.Spans
import SessionBoard.Proofs.Text.Fit

namespace SessionBoard

open SessionBoard.Text
open Text.Width (ofText isSimple)

/-- What becomes of a text that is fitted into a width. -/
structure FitsWidth (text : List Char) (width : Nat) : Prop where
  whole : ofText text ≤ width → fit text width = text ++ List.replicate (width - ofText text) ' '
  least : width ≤ ofText (fit text width)
  exact_iff : ofText (fit text width) = width ↔
    ofText text ≤ width ∨ width = 0 ∨ ofText (shown text width) < width
  simple : (∀ char ∈ text, isSimple char) → ofText (fit text width) = width

theorem fitsWidth (text : List Char) (width : Nat) : FitsWidth text width where
  whole := fit_of_le
  least := by
    rw [ofText_fit]
    exact Nat.le_max_left ..
  exact_iff := ofText_fit_eq_iff
  simple := by
    intro simple
    rw [ofText_fit_eq_iff]
    by_contra long
    simp only [not_or, Nat.not_le] at long
    exact long.2.2 (ofText_shown_lt_of_simple simple long.1 (Nat.pos_of_ne_zero long.2.1))

/-- Texts fitted into their widths with gaps between them. -/
def fittedLine (items : List (List Char × Nat)) : List Char :=
  gapSpan.text.intercalate (items.map fun item => fit item.1 item.2)

/-- What stands in such a line before the text of a column. -/
def lead (items : List (List Char × Nat)) (column : Nat) : List Char :=
  (items.take column).flatMap fun item => fit item.1 item.2 ++ gapSpan.text

variable {item : List Char × Nat} {items : List (List Char × Nat)} {column width : Nat} {text : List Char}

theorem fittedLine_cons (more : items ≠ []) :
    fittedLine (item :: items) = fit item.1 item.2 ++ (gapSpan.text ++ fittedLine items) := by
  rw [fittedLine, List.map_cons, List.intercalate_cons_of_ne_nil (List.map_eq_nil_iff.not.mpr more),
    List.append_assoc]
  rfl

theorem lead_cons_succ : lead (item :: items) (column + 1) =
    fit item.1 item.2 ++ (gapSpan.text ++ lead items column) := by
  rw [lead, List.take_succ_cons, List.flatMap_cons, List.append_assoc]
  rfl

theorem fittedLine_eq (atColumn : items[column]? = some (text, width)) :
    ∃ after, fittedLine items = lead items column ++ (fit text width ++ after) := by
  induction items generalizing column with
  | nil => cases atColumn
  | cons item items ih =>
    cases column with
    | zero =>
      cases atColumn
      rcases eq_or_ne items [] with rfl | more
      · exact ⟨[], by rw [fittedLine, List.map_singleton, List.intercalate_singleton, List.append_nil]; rfl⟩
      · exact ⟨gapSpan.text ++ fittedLine items, fittedLine_cons more⟩
    | succ column =>
      obtain ⟨after, rest⟩ := ih atColumn
      have more : items ≠ [] := by
        rintro rfl
        cases atColumn
      -- A text is left, so a gap follows the first one.
      refine ⟨after, ?_⟩
      rw [fittedLine_cons more, rest, lead_cons_succ, List.append_assoc, List.append_assoc]

/-- The texts before a column are as wide in the line as they are on their own. -/
theorem ofText_lead_append (bound : column ≤ items.length) (later : List Char) :
    ofText (lead items column ++ later) = ColumnLayout.startOf
      (items.map fun item => ofText (fit item.1 item.2)) column + ofText later := by
  -- Widths do not add up in general. Here a gap stands between any two texts, and blanks keep them apart.
  induction items generalizing column with
  | nil =>
    cases Nat.le_zero.mp bound
    exact (Nat.zero_add _).symm
  | cons item items ih =>
    cases column with
    | zero => exact (Nat.zero_add _).symm
    | succ column =>
      rw [lead_cons_succ, List.append_assoc, List.append_assoc, gapSpan,
        Width.ofText_append_blanks_append _ (by decide : 0 < Column.gap), ih (Nat.le_of_succ_le_succ bound),
        List.map_cons, ColumnLayout.startOf_cons_succ, Nat.add_assoc _ _ (ofText later)]

theorem ofText_lead (bound : column ≤ items.length) : ofText (lead items column) =
    ColumnLayout.startOf (items.map fun item => ofText (fit item.1 item.2)) column := by
  have alone := ofText_lead_append bound []
  rwa [List.append_nil] at alone

/-- A text of a line stands at the start of its column, or to the right of it if one before it is too wide. -/
structure StandsAt (items : List (List Char × Nat)) (column : Nat) (text : List Char) (width start : Nat) :
    Prop where
  text : ∃ after, fittedLine items = lead items column ++ (fit text width ++ after) ∧
    ofText (fittedLine items) = ofText (lead items column) + ofText (fit text width ++ after)
  least : start ≤ ofText (lead items column)
  exact_iff : ofText (lead items column) = start ↔
    ∀ item ∈ items.take column, ofText (fit item.1 item.2) = item.2

theorem standsAt (atColumn : items[column]? = some (text, width)) : ∃ start,
    (ColumnLayout.ofWidths (items.map Prod.snd)).starts[column]? = some start ∧
      StandsAt items column text width start := by
  obtain ⟨bound, _⟩ := List.getElem?_eq_some_iff.mp atColumn
  obtain ⟨after, whole⟩ := fittedLine_eq atColumn
  have widths := ColumnLayout.startOf_le
    (fun item (_ : item ∈ items) => (fitsWidth item.1 item.2).least) column
  rw [← ofText_lead (Nat.le_of_lt bound)] at widths
  refine ⟨_, ColumnLayout.starts_ofWidths (by rwa [List.length_map]), ⟨after, whole, ?_⟩, widths.1, widths.2⟩
  rw [whole, ofText_lead_append (Nat.le_of_lt bound), ofText_lead (Nat.le_of_lt bound)]

theorem StandsAt.of_exact {start : Nat} (stands : StandsAt items column text width start)
    (exact : ∀ item ∈ items, ofText (fit item.1 item.2) = item.2) : ofText (lead items column) = start :=
  stands.exact_iff.mpr fun item member => exact item (List.mem_of_mem_take member)

namespace TableState

def titleItems (table : TableState) : List (List Char × Nat) :=
  (Column.titles.map String.toList).zip table.layout.widths

def rowItems (table : TableState) (row : SessionRow) : List (List Char × Nat) :=
  row.cells.zip table.layout.widths

/-- Where the titles and the cells of a table stand. -/
structure Aligned (table : TableState) : Prop where
  titles : textOf table.titleSpans = fittedLine table.titleItems
  /-- The titles stand where their columns start. -/
  title : ∀ column title width, Column.titles[column]? = some title →
    table.layout.widths[column]? = some width → ∃ start, table.layout.starts[column]? = some start ∧
      StandsAt table.titleItems column title.toList width start ∧
      ofText (lead table.titleItems column) = start
  cells : ∀ row : SessionRow, textOf (table.rowSpans row) = fittedLine (table.rowItems row)
  cell : ∀ (row : SessionRow) column cell width, row.cells[column]? = some cell →
    table.layout.widths[column]? = some width → ∃ start, table.layout.starts[column]? = some start ∧
      StandsAt (table.rowItems row) column cell width start

theorem simple_titles : ∀ title ∈ Column.titles, ∀ char ∈ title.toList, isSimple char := by
  have checked : Column.titles.all fun title => title.toList.all isSimple := by decide +kernel
  simpa only [List.all_eq_true] using checked

theorem aligned (table : TableState) : table.Aligned where
  titles := by
    rw [titleSpans, textOf_gapped, titleItems, fittedLine, List.zip_map_left, List.map_map, List.map_map]
    congr 1
    exact List.map_congr_left fun item _ => List.append_nil _
  title := by
    intro column title width atColumn atWidth
    have item : table.titleItems[column]? = some (title.toList, width) := by
      rw [titleItems, List.getElem?_zip_eq_some, List.getElem?_map, atColumn]
      exact ⟨rfl, atWidth⟩
    obtain ⟨start, atStart, stands⟩ := standsAt item
    refine ⟨start, atStart, stands, stands.of_exact fun other member => ?_⟩
    obtain ⟨_, isTitle, same⟩ := List.mem_map.mp (List.of_mem_zip member).1
    exact (fitsWidth _ _).simple (same ▸ simple_titles _ isTitle)
  cells := by
    intro row
    rw [rowSpans_eq, textOf_gapped, map_textOf_cellsOf]
    rfl
  cell := by
    intro row column cell width atColumn atWidth
    have item : (table.rowItems row)[column]? = some (cell, width) :=
      List.getElem?_zip_eq_some.mpr ⟨atColumn, atWidth⟩
    exact standsAt item

end TableState

/-- A text that is short enough is kept whole, and every text is fitted into just its width, unless what is
shown of it is wider together than character by character. The lines of a table are put together from fitted
texts, each of which starts where its column does or is pushed to the right by those before it. -/
theorem TableState.columns_aligned (table : TableState) :
    (∀ text width, FitsWidth text width) ∧ table.Aligned :=
  ⟨fitsWidth, table.aligned⟩

/-- Two red hearts do not fit into three columns. Each is a heart of one column with a selector of none that
makes a picture of two columns of it, so both of them are kept, and the ellipsis is the fifth column. -/
theorem hearts_overfull :
    ofText ['❤', '\ufe0f', '❤', '\ufe0f'] = 4 ∧
      fit ['❤', '\ufe0f', '❤', '\ufe0f'] 3 = ['❤', '\ufe0f', '❤', '\ufe0f', '…'] ∧
      ofText (fit ['❤', '\ufe0f', '❤', '\ufe0f'] 3) = 5 := by
  decide +kernel

end SessionBoard
