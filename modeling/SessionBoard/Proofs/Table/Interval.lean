import Mathlib.Data.Prod.Lex
import SessionBoard.Proofs.Table.Selected

namespace SessionBoard

section Indexed

variable {τ : Type} (items : List τ)

theorem zipIdx_split (cut : Nat) :
    items.zipIdx = (items.take cut).zipIdx ++ (items.drop cut).zipIdx cut := by
  rcases Nat.le_total cut items.length with within | past
  · have size : 0 + (items.take cut).length = cut := by
      rw [List.length_take]
      omega
    conv_lhs => rw [← List.take_append_drop cut items, List.zipIdx_append, size]
  · rw [List.take_of_length_le past, List.drop_eq_nil_of_le past, List.zipIdx_nil, List.append_nil]

/-- The items whose indices lie in a half-open interval. -/
theorem filter_zipIdx (start stop : Nat) :
    items.zipIdx.filter (fun item => start ≤ item.2 ∧ item.2 < stop) =
      ((items.take stop).drop start).zipIdx start := by
  -- The list is cut at both ends, and of the three parts the one in the middle is kept.
  have early : ((items.take stop).take start).zipIdx.filter
      (fun item => start ≤ item.2 ∧ item.2 < stop) = [] := by
    refine List.filter_eq_nil_iff.mpr fun item member => ?_
    have most := List.snd_lt_add_of_mem_zipIdx member
    rw [List.length_take] at most
    simp only [decide_eq_true_eq]
    omega
  have within : (((items.take stop).drop start).zipIdx start).filter
      (fun item => start ≤ item.2 ∧ item.2 < stop) = ((items.take stop).drop start).zipIdx start := by
    refine List.filter_eq_self.mpr fun item member => ?_
    have least := List.le_snd_of_mem_zipIdx member
    have most := List.snd_lt_add_of_mem_zipIdx member
    rw [List.length_drop, List.length_take] at most
    simp only [decide_eq_true_eq]
    omega
  have late : ((items.drop stop).zipIdx stop).filter
      (fun item => start ≤ item.2 ∧ item.2 < stop) = [] := by
    refine List.filter_eq_nil_iff.mpr fun item member => ?_
    have least := List.le_snd_of_mem_zipIdx member
    simp only [decide_eq_true_eq]
    omega
  rw [zipIdx_split items stop, zipIdx_split (items.take stop) start, List.filter_append,
    List.filter_append, early, within, late, List.nil_append, List.append_nil]

end Indexed

namespace CellPoint

variable {p q first last : CellPoint} {column index : Nat} {cell : List Char}

/-- Where a point stands in its row: columns come first. -/
def place (point : CellPoint) : ℕ ×ₗ ℕ :=
  toLex (point.column, point.offset)

theorem place_le_iff : p.place ≤ q.place ↔ p ≤ q :=
  Prod.Lex.toLex_le_toLex

theorem place_injective : Function.Injective place := by
  rintro ⟨column, offset⟩ ⟨column', offset'⟩ same
  cases toLex.injective same
  rfl

/-- The character at this index of a column stands between two points, whichever of them comes first. -/
def Between (p q : CellPoint) (column index : Nat) : Prop :=
  min p.place q.place ≤ (mk column index).place ∧ (mk column index).place < max p.place q.place

instance : Decidable (Between p q column index) :=
  inferInstanceAs (Decidable (_ ∧ _))

theorem between_comm : Between p q column index ↔ Between q p column index := by
  rw [Between, Between, min_comm, max_comm]

theorem between_of_le (ordered : first ≤ last) : Between first last column index ↔
    (first.column < column ∨ first.column = column ∧ first.offset ≤ index) ∧
      (column < last.column ∨ column = last.column ∧ index < last.offset) := by
  have places := place_le_iff.mpr ordered
  rw [Between, min_eq_left places, max_eq_right places]
  exact and_congr Prod.Lex.toLex_le_toLex Prod.Lex.toLex_lt_toLex

theorem not_between_self (p : CellPoint) : ¬Between p p column index := by
  rintro ⟨least, most⟩
  rw [min_self] at least
  rw [max_self] at most
  exact absurd least (not_le.mpr most)

/-- What stands between two points in a column that shows this cell. -/
def spanned (p q : CellPoint) (column : Nat) (cell : List Char) : List Char :=
  (cell.zipIdx.filter fun item => Between p q column item.2).map Prod.fst

theorem spanned_eq_nil_iff :
    spanned p q column cell = [] ↔ ∀ index < cell.length, ¬Between p q column index := by
  simp only [spanned, List.map_eq_nil_iff, List.filter_eq_nil_iff, decide_eq_true_eq, Prod.forall,
    List.mk_mem_zipIdx_iff_getElem?, List.getElem?_eq_some_iff]
  constructor
  · intro none index bound
    exact none cell[index] index ⟨bound, rfl⟩
  · rintro none char index ⟨bound, _⟩
    exact none index bound

/-- What stands between two points in each of these cells, as far as there is anything. -/
def pieces (p q : CellPoint) (cells : List (List Char)) : List (List Char) :=
  (cells.zipIdx.map fun item => spanned p q item.2 item.1).filter (· ≠ [])

theorem pieces_eq_nil_iff {cells : List (List Char)} :
    pieces p q cells = [] ↔ ∀ column cell, cells[column]? = some cell →
      ∀ index < cell.length, ¬Between p q column index := by
  simp only [pieces, List.filter_eq_nil_iff, List.forall_mem_map, Prod.forall,
    List.mk_mem_zipIdx_iff_getElem?, ← spanned_eq_nil_iff]
  constructor
  · intro none column cell atColumn
    simpa using none cell column atColumn
  · intro none cell column atColumn
    simpa using none column cell atColumn

end CellPoint

namespace Selection

open CellPoint (Between between_comm between_of_le not_between_self spanned pieces)

variable {selection : Selection} {key : SessionId} {column length : Nat} {first last : CellPoint}

theorem range_ends (ranges : selection.range = some (first, last)) : first ≤ last ∧
    (first = selection.anchor ∧ last = selection.cursor ∨
      first = selection.cursor ∧ last = selection.anchor) := by
  unfold range at ranges
  split at ranges
  · cases ranges
  · split at ranges
    · cases ranges
      exact ⟨‹_›, .inl ⟨rfl, rfl⟩⟩
    · rename_i backward
      cases ranges
      rw [← CellPoint.place_le_iff, not_le] at backward
      exact ⟨CellPoint.place_le_iff.mp backward.le, .inr ⟨rfl, rfl⟩⟩

theorem between_range (ranges : selection.range = some (first, last)) {index : Nat} :
    Between selection.anchor selection.cursor column index ↔
      (first.column < column ∨ first.column = column ∧ first.offset ≤ index) ∧
        (column < last.column ∨ column = last.column ∧ index < last.offset) := by
  obtain ⟨ordered, ⟨rfl, rfl⟩ | ⟨rfl, rfl⟩⟩ := range_ends ranges
  · exact between_of_le ordered
  · exact between_comm.trans (between_of_le ordered)

/-- A highlight is an interval of the column, and it is left out if the interval is empty. -/
theorem highlight_bounds (row : selection.rowKey = some key) (column length : Nat) :
    ∃ start stop, selection.highlight key column length = (if start < stop then some (start, stop) else none) ∧
      ∀ index, start ≤ index ∧ index < stop ↔
        index < length ∧ Between selection.anchor selection.cursor column index := by
  cases ranges : selection.range with
  | none =>
    have empty := (range_eq_none row).mp ranges
    refine ⟨0, 0, by simp [highlight, row, ranges], fun index => ?_⟩
    have nothing : ¬Between selection.anchor selection.cursor column index := by
      rw [empty]
      exact not_between_self _
    simp [nothing]
  | some ends =>
    obtain ⟨first, last⟩ := ends
    by_cases outside : column < first.column ∨ last.column < column
    · refine ⟨0, 0, by simp [highlight, row, ranges, outside], fun index => ?_⟩
      rw [between_range ranges]
      omega
    · refine ⟨if column = first.column then min first.offset length else 0,
        if column = last.column then min last.offset length else length,
        by simp [highlight, row, ranges, outside], fun index => ?_⟩
      rw [between_range ranges]
      split <;> split <;> omega

theorem highlight_eq_some (row : selection.rowKey = some key) {start stop : Nat}
    (lit : selection.highlight key column length = some (start, stop)) : start < stop ∧ stop ≤ length ∧
      ∀ index, start ≤ index ∧ index < stop ↔
        index < length ∧ Between selection.anchor selection.cursor column index := by
  obtain ⟨least, most, found, bounds⟩ := selection.highlight_bounds row column length
  rw [lit] at found
  split at found
  · cases found
    have final := (bounds (stop - 1)).mp (by omega)
    exact ⟨‹_›, by omega, bounds⟩
  · cases found

theorem highlight_eq_none_iff (row : selection.rowKey = some key) :
    selection.highlight key column length = none ↔
      ∀ index < length, ¬Between selection.anchor selection.cursor column index := by
  obtain ⟨start, stop, found, bounds⟩ := selection.highlight_bounds row column length
  rw [found]
  split
  · have first := (bounds start).mp (by omega)
    exact ⟨nofun, fun unlit => absurd first.2 (unlit start first.1)⟩
  · refine ⟨fun _ index bound between => ?_, fun _ => rfl⟩
    have inside := (bounds index).mpr ⟨bound, between⟩
    omega

/-- What is highlighted of a cell is what stands between the ends of the selection. -/
theorem pieceOf_eq (row : selection.rowKey = some key) {cells : List (List Char)} {cell : List Char}
    (atColumn : cells[column]? = some cell) : selection.pieceOf key cells column =
      .ok (Option.guard (· ≠ []) (spanned selection.anchor selection.cursor column cell)) := by
  obtain ⟨start, stop, found, bounds⟩ := selection.highlight_bounds row column cell.length
  have taken : spanned selection.anchor selection.cursor column cell = Text.slice cell start stop := by
    have filtered := congrArg (List.map Prod.fst) (filter_zipIdx cell start stop)
    rw [List.zipIdx_map_fst, List.drop_take] at filtered
    rw [Text.slice, ← filtered, spanned]
    congr 1
    refine List.filter_congr fun item member => decide_eq_decide.mpr ?_
    have bound := List.snd_lt_add_of_mem_zipIdx member
    rw [bounds item.2]
    exact ⟨fun between => ⟨by omega, between⟩, And.right⟩
  have nonempty : Text.slice cell start stop ≠ [] ↔ start < stop := by
    rw [← taken, ne_eq, CellPoint.spanned_eq_nil_iff, ← highlight_eq_none_iff row, found]
    split <;> simp [*]
  have cut : Option.guard (· ≠ []) (Text.slice cell start stop) =
      (if start < stop then some (start, stop) else none).map fun ends => Text.slice cell ends.1 ends.2 := by
    by_cases some_char : start < stop
    · simp [Option.guard, some_char, nonempty.mpr some_char]
    · simp [Option.guard, some_char, not_not.mp (mt nonempty.mp some_char)]
  rw [taken, cut, ← found, pieceOf, Checked.get_eq_ok.mpr atColumn]
  rfl

/-- The columns that are gone through for the text, each with its cell. There is nothing to take from the
others. -/
theorem exists_passed (ranges : selection.range = some (first, last)) {cells : List (List Char)}
    (some_cell : cells ≠ []) : ∃ passed : List (List Char × Nat),
      List.range' first.column (min last.column (cells.length - 1) + 1 - first.column) =
        passed.map Prod.snd ∧
      (∀ item ∈ passed, cells[item.2]? = some item.1) ∧
      pieces selection.anchor selection.cursor cells = passed.filterMap fun item =>
        Option.guard (· ≠ []) (spanned selection.anchor selection.cursor item.2 item.1) := by
  have positive : 0 < cells.length := List.length_pos_of_ne_nil some_cell
  refine ⟨cells.zipIdx.filter fun item => first.column ≤ item.2 ∧
    item.2 < min last.column (cells.length - 1) + 1, ?_, fun item member => ?_, ?_⟩
  · rw [filter_zipIdx, List.zipIdx_map_snd, List.length_drop, List.length_take]
    congr 2
    omega
  · exact List.mem_zipIdx_iff_getElem?.mp (List.mem_of_mem_filter member)
  · -- Both are read off all the cells, and the columns that are left out have no piece.
    rw [pieces, ← List.filterMap_eq_filter, List.filterMap_map, List.filterMap_filter]
    refine List.filterMap_congr fun item member => ?_
    rw [Function.comp_apply]
    split
    · rfl
    · rename_i outside
      have bound := List.snd_lt_add_of_mem_zipIdx member
      rw [decide_eq_true_eq] at outside
      have nothing : spanned selection.anchor selection.cursor item.2 item.1 = [] := by
        refine CellPoint.spanned_eq_nil_iff.mpr fun index _ => ?_
        rw [between_range ranges]
        omega
      rw [nothing]
      rfl

theorem selectedText_eq (row : selection.rowKey = some key) {cells : List (List Char)}
    (some_cell : cells ≠ []) : selection.selectedText cells =
      .ok (if pieces selection.anchor selection.cursor cells = [] then none
        else some (List.intercalate ['\t'] (pieces selection.anchor selection.cursor cells))) := by
  cases ranges : selection.range with
  | none =>
    have nothing : pieces selection.anchor selection.cursor cells = [] := by
      refine CellPoint.pieces_eq_nil_iff.mpr fun column cell _ index _ => ?_
      rw [(range_eq_none row).mp ranges]
      exact not_between_self _
    rw [selectedText, row, ranges, nothing, if_pos rfl]
  | some ends =>
    obtain ⟨first, last⟩ := ends
    obtain ⟨passed, columns, shown, taken⟩ := exists_passed ranges some_cell
    have cut := Checked.mapM_eq_ok (f := selection.pieceOf key cells ∘ Prod.snd) fun item member =>
      pieceOf_eq row (shown item member)
    have whole : (passed.map fun item => Option.guard (· ≠ [])
        (spanned selection.anchor selection.cursor item.2 item.1)).filterMap id =
          pieces selection.anchor selection.cursor cells := by
      rw [List.filterMap_map, taken]
      rfl
    rw [selectedText, row, ranges]
    simp only [columns, List.mapM_map, cut]
    simp only [bind, Except.bind, pure, Except.pure, whole, List.isEmpty_iff]

/-- Nothing but its row and its range tells what a selection takes. -/
theorem takes_same {selection' : Selection} (row : selection'.rowKey = selection.rowKey)
    (ranges : selection'.range = selection.range) :
    selection'.highlight = selection.highlight ∧ selection'.selectedText = selection.selectedText := by
  have lit : selection'.highlight = selection.highlight := by
    funext key column length
    rw [highlight, highlight, row, ranges]
  refine ⟨lit, ?_⟩
  funext cells
  have cut : selection'.pieceOf = selection.pieceOf := by
    funext key cells column
    rw [pieceOf, pieceOf, lit]
  rw [selectedText, selectedText, row, ranges, cut]

/-- A selection of the row with this key takes the characters from one point up to another one and no
others, however many there still are in each of the cells. -/
structure Takes (selection : Selection) (key : SessionId) (p q : CellPoint) : Prop where
  range : selection.range.map (fun ends => (ends.1.place, ends.2.place)) =
    if p = q then none else some (min p.place q.place, max p.place q.place)
  elsewhere : ∀ other column length, other ≠ key → selection.highlight other column length = none
  lit : ∀ column length start stop, selection.highlight key column length = some (start, stop) →
    start < stop ∧ stop ≤ length ∧
      ∀ index, start ≤ index ∧ index < stop ↔ index < length ∧ Between p q column index
  unlit : ∀ column length, selection.highlight key column length = none ↔
    ∀ index < length, ¬Between p q column index
  text : ∀ cells, cells ≠ [] → selection.selectedText cells =
    .ok (if pieces p q cells = [] then none else some (List.intercalate ['\t'] (pieces p q cells)))
  no_text : ∀ cells, cells ≠ [] → (selection.selectedText cells = .ok none ↔
    ∀ column cell, cells[column]? = some cell → ∀ index < cell.length, ¬Between p q column index)

theorem takes (row : selection.rowKey = some key) : selection.Takes key selection.anchor selection.cursor where
  range := by
    cases ranges : selection.range with
    | none => rw [if_pos ((range_eq_none row).mp ranges), Option.map_none]
    | some ends =>
      obtain ⟨first, last⟩ := ends
      have apart : selection.anchor ≠ selection.cursor := by
        intro same
        cases ((range_eq_none row).mpr same).symm.trans ranges
      rw [if_neg apart, Option.map_some]
      obtain ⟨ordered, ⟨rfl, rfl⟩ | ⟨rfl, rfl⟩⟩ := range_ends ranges
      · have places := CellPoint.place_le_iff.mpr ordered
        rw [min_eq_left places, max_eq_right places]
      · have places := CellPoint.place_le_iff.mpr ordered
        rw [min_eq_right places, max_eq_left places]
  elsewhere := by
    intro other column length apart
    rw [highlight, row]
    exact if_pos fun same => apart (Option.some.inj same).symm
  lit := fun _ _ _ _ => highlight_eq_some row
  unlit := fun _ _ => highlight_eq_none_iff row
  text := fun _ => selectedText_eq row
  no_text := by
    intro cells some_cell
    rw [selectedText_eq row some_cell, ← CellPoint.pieces_eq_nil_iff]
    split <;> simp [*]

/-- A new selection on a row, begun at one point and drawn to another one. -/
def dragged (key : SessionId) (p q : CellPoint) : Selection :=
  (start key p).extend q

/-- What is selected lies between the two points, and it does not matter at which of them the drag began. The
characters of a row are ordered by their columns first and by their places in the cell second. -/
theorem selected_between (key : SessionId) (p q : CellPoint) :
    (dragged key p q).Takes key p q ∧
      (dragged key p q).range = (dragged key q p).range ∧
      (dragged key p q).highlight = (dragged key q p).highlight ∧
      (dragged key p q).selectedText = (dragged key q p).selectedText := by
  have forth : (dragged key p q).Takes key p q := takes rfl
  have back : (dragged key q p).Takes key q p := takes rfl
  have ranges : (dragged key p q).range = (dragged key q p).range := by
    refine Option.map_injective (CellPoint.place_injective.prodMap CellPoint.place_injective) ?_
    have places := back.range
    rw [min_comm, max_comm, ite_cond_congr (propext eq_comm)] at places
    exact forth.range.trans places.symm
  exact ⟨forth, ranges, takes_same rfl ranges⟩

/-- The drag goes back from a column that there is not to the second one, where it ends past the text that is
left there. -/
theorem selected_between_past_the_ends :
    (dragged ⟨"7"⟩ ⟨9, 2⟩ ⟨1, 6⟩).highlight ⟨"7"⟩ 1 4 = none ∧
      (dragged ⟨"7"⟩ ⟨9, 2⟩ ⟨1, 6⟩).highlight ⟨"7"⟩ 2 7 = some (0, 7) ∧
      (dragged ⟨"7"⟩ ⟨9, 2⟩ ⟨1, 6⟩).selectedText
        ["7".toList, "http".toList, "Waiting".toList, [], "10.0.0.1".toList] =
          .ok (some "Waiting\t10.0.0.1".toList) ∧
      (dragged ⟨"7"⟩ ⟨9, 2⟩ ⟨1, 6⟩).Takes ⟨"7"⟩ ⟨9, 2⟩ ⟨1, 6⟩ :=
  ⟨by decide, by decide, by decide, (selected_between ⟨"7"⟩ ⟨9, 2⟩ ⟨1, 6⟩).1⟩

end Selection

end SessionBoard
