import Mathlib.Algebra.GroupWithZero.Nat
import Mathlib.Data.List.Perm.Basic
import SessionBoard.Proofs.Table.Columns

namespace SessionBoard

open SessionBoard.Text

namespace Column

/-- The column that takes what the others leave. -/
def host : Nat := 3

theorem title_le_contentWidth {title : String} {cap : Nat} (fits : Width.ofText title.toList ≤ cap)
    (texts : List String) : Width.ofText title.toList ≤ contentWidth title texts cap := by
  have grows : ∀ (sizes : List Nat) (least : Nat), least ≤ sizes.foldl max least := by
    intro sizes
    induction sizes with
    | nil => exact Nat.le_refl
    | cons size sizes ih => exact fun least => Nat.le_trans (Nat.le_max_left _ _) (ih _)
  exact Nat.le_min.mpr ⟨fits, grows _ _⟩

theorem contentWidth_perm {texts texts' : List String} (same : texts.Perm texts') (title : String) (cap : Nat) :
    contentWidth title texts cap = contentWidth title texts' cap := by
  rw [contentWidth, contentWidth, (same.map _).foldl_eq]

end Column

namespace ColumnLayout

open Column

variable {widths : List Nat} {column earlier start width x distance : Nat}

/-- This column of the layout starts here and is that wide. -/
def Places (layout : ColumnLayout) (column start width : Nat) : Prop :=
  layout.starts[column]? = some start ∧ layout.widths[column]? = some width

theorem places_ofWidths : (ofWidths widths).Places column start width ↔
    start = startOf widths column ∧ widths[column]? = some width := by
  constructor
  · rintro ⟨atStart, atWidth⟩
    obtain ⟨bound, _⟩ := List.getElem?_eq_some_iff.mp atWidth
    cases (starts_ofWidths bound).symm.trans atStart
    exact ⟨rfl, atWidth⟩
  · rintro ⟨rfl, atWidth⟩
    obtain ⟨bound, _⟩ := List.getElem?_eq_some_iff.mp atWidth
    exact ⟨starts_ofWidths bound, atWidth⟩

theorem endOf_of_getElem? (atWidth : widths[column]? = some width) :
    endOf widths column = startOf widths column + width := by
  rw [endOf, List.getD_eq_getElem?_getD, atWidth, Option.getD_some]

theorem startOf_succ (bound : column < widths.length) :
    startOf widths (column + 1) = endOf widths column + gap := by
  induction widths generalizing column with
  | nil => cases bound
  | cons width widths ih =>
    rw [startOf_cons_succ]
    cases column with
    | zero =>
      rw [endOf_of_getElem? (List.getElem?_cons_zero ..)]
      cases widths <;> simp [startOf]
    | succ column =>
      rw [ih (Nat.lt_of_succ_lt_succ bound), endOf, endOf, startOf_cons_succ, List.getD_cons_succ]
      omega

theorem startOf_le_endOf (widths : List Nat) (column : Nat) : startOf widths column ≤ endOf widths column :=
  Nat.le_add_right ..

theorem endOf_add_gap_le (before : earlier < column) (bound : column < widths.length) :
    endOf widths earlier + gap ≤ startOf widths column := by
  induction column with
  | zero => cases before
  | succ column ih =>
    rw [startOf_succ (by omega)]
    rcases Nat.lt_succ_iff_lt_or_eq.mp before with sooner | rfl
    · have least := ih sooner (by omega)
      have onward := startOf_le_endOf widths column
      omega
    · exact Nat.le_refl _

/-- There is one column that a point belongs to. -/
theorem columnAt_of_finds (finds : Finds widths x column distance) :
    (ofWidths widths).columnAt x = .ok (column, distance) := by
  obtain ⟨column', distance', found, _⟩ := columnAt_ok (Nat.zero_lt_of_lt finds.bound) x
  have finds' := finds_of_columnAt found
  have forth := finds.mono finds' (Nat.le_refl x)
  have back := finds'.mono finds (Nat.le_refl x)
  obtain ⟨rfl, rfl⟩ : column' = column ∧ distance' = distance := by omega
  exact found

/-- The columns of a layout follow one another from the start of the line, and every point of the line is told
to belong to one of them. -/
structure Tiled (layout : ColumnLayout) (last : Nat) : Prop where
  count : layout.starts.length = last + 1 ∧ layout.widths.length = last + 1
  first : layout.starts[0]? = some 0
  next : ∀ column start width, layout.Places column start width → column < last →
    layout.starts[column + 1]? = some (start + width + 2)
  inside : ∀ column start width distance, layout.Places column start width → distance < width →
    layout.columnAt (start + distance) = .ok (column, distance)
  between : ∀ column start width distance, layout.Places column start width → column < last →
    distance < 2 → layout.columnAt (start + width + distance) = .ok (column + 1, 0)
  past : ∀ start width x, layout.Places last start width → start + width ≤ x →
    layout.columnAt x = .ok (last, x - start)
  /-- There is no other point. -/
  covered : ∀ x, ∃ column start width, layout.Places column start width ∧
    ((∃ distance < width, x = start + distance) ∨
      (column < last ∧ ∃ distance < 2, x = start + width + distance) ∨
      (column = last ∧ start + width ≤ x))

theorem tiled_ofWidths {last : Nat} (count : widths.length = last + 1) : (ofWidths widths).Tiled last where
  count := ⟨(length_startsFrom 0 widths).trans count, count⟩
  first := by
    rw [starts_ofWidths (count ▸ Nat.succ_pos last)]
    cases widths <;> rfl
  next := by
    intro column start width places inner
    obtain ⟨rfl, atWidth⟩ := places_ofWidths.mp places
    rw [starts_ofWidths (by omega), startOf_succ (by omega), endOf_of_getElem? atWidth]
    rfl
  inside := by
    intro column start width distance places within
    obtain ⟨rfl, atWidth⟩ := places_ofWidths.mp places
    obtain ⟨bound, _⟩ := List.getElem?_eq_some_iff.mp atWidth
    refine columnAt_of_finds ⟨bound, (Nat.add_sub_cancel_left ..).symm, fun earlier before => ?_, .inl ?_⟩
    · have least := endOf_add_gap_le before bound
      omega
    · rw [endOf_of_getElem? atWidth]
      omega
  between := by
    intro column start width distance places inner within
    obtain ⟨rfl, atWidth⟩ := places_ofWidths.mp places
    have bound : column + 1 < widths.length := by omega
    have follows := startOf_succ (Nat.lt_of_succ_lt bound)
    have onward := startOf_le_endOf widths (column + 1)
    have size : gap = 2 := rfl
    rw [← endOf_of_getElem? atWidth]
    refine columnAt_of_finds ⟨bound, by omega, fun earlier before => ?_, .inl (by omega)⟩
    have least := endOf_add_gap_le before bound
    omega
  past := by
    intro start width x places after
    obtain ⟨rfl, atWidth⟩ := places_ofWidths.mp places
    have bound : last < widths.length := by omega
    refine columnAt_of_finds ⟨bound, rfl, fun earlier before => ?_, .inr count.symm⟩
    have least := endOf_add_gap_le before bound
    omega
  covered := by
    intro x
    have some_column : 0 < widths.length := by omega
    obtain ⟨column, distance, found, bound⟩ := columnAt_ok some_column x
    have finds := finds_of_columnAt found
    have places : ∀ {column} (bound : column < widths.length),
        (ofWidths widths).Places column (startOf widths column) widths[column] := fun bound =>
      places_ofWidths.mpr ⟨rfl, List.getElem?_eq_getElem bound⟩
    rcases Nat.lt_or_ge x (startOf widths column) with before | after
    -- The point is in the gap before the column that it is told to belong to.
    · obtain ⟨previous, rfl⟩ : ∃ previous, column = previous + 1 := by
        refine Nat.exists_eq_succ_of_ne_zero ?_
        rintro rfl
        cases widths <;> cases before
      have least := finds.past previous (Nat.lt_succ_self _)
      have inner : previous < widths.length := Nat.lt_of_succ_lt bound
      rw [startOf_succ inner] at before
      rw [endOf_eq inner] at least before
      have size : gap = 2 := rfl
      exact ⟨previous, _, _, places inner, .inr (.inl ⟨by omega, x - (startOf widths previous +
        widths[previous]), by omega, by omega⟩)⟩
    · have within := finds.within
      rw [endOf_eq bound] at within
      refine ⟨column, _, _, places bound, ?_⟩
      by_cases inside : x < startOf widths column + widths[column]
      · exact .inl ⟨x - startOf widths column, by omega, by omega⟩
      · exact .inr (.inr (by omega))

/-- What all columns but that of the host take, together with the gaps. -/
def besideHost (layout : ColumnLayout) : Nat :=
  (layout.widths.eraseIdx host).sum + 5 * 2

theorem besideHost_ofRows (rows : List SessionRow) (total : Nat) : (ofRows rows total).besideHost =
    contentWidth "ID" (rows.map (·.record.id.text)) maxIdWidth +
      contentWidth "Type" (rows.map (·.record.protocol)) maxProtocolWidth + stateWidth +
      contentWidth "From" (rows.map (·.record.origin)) maxOriginWidth + uptimeWidth + gap * 5 := by
  simp only [besideHost, ofRows, ofWidths, host, List.eraseIdx_cons_succ, List.eraseIdx_cons_zero,
    List.sum_cons, List.sum_nil]
  simp only [gap]
  omega

variable {rows : List SessionRow} {total : Nat}

theorem width_host : (ofRows rows total).widths[host]? = some (max (total - (ofRows rows total).besideHost) 8) := by
  rw [besideHost_ofRows]
  rfl

theorem end_of_places_last (places : (ofRows rows total).Places 5 start width) :
    start + width = (ofRows rows total).besideHost + max (total - (ofRows rows total).besideHost) 8 := by
  obtain ⟨rfl, atWidth⟩ := places_ofWidths.mp places
  cases atWidth
  rw [besideHost_ofRows]
  simp only [startOf, minHostWidth, gap]
  omega

/-- How the columns of some rows are laid out on a line of a total width. -/
structure LaidOut (rows : List SessionRow) (total : Nat) : Prop where
  tiled : (ofRows rows total).Tiled 5
  titled : titles.Forall₂ (fun title width => Width.ofText title.toList ≤ width) (ofRows rows total).widths
  steady : ∀ rows' total', rows.Perm rows' →
    (ofRows rows' total').widths.eraseIdx host = (ofRows rows total).widths.eraseIdx host
  fills : ∀ start width, (ofRows rows total).Places 5 start width →
    (ofRows rows total).besideHost + 8 ≤ total → start + width = total
  narrow : total < (ofRows rows total).besideHost + 8 → (ofRows rows total).widths[host]? = some 8

/-- Whatever the rows show and however wide the line is, its columns tile it: they follow one another from its
start with gaps of two between them, and the host takes what the others leave. Each point of the line is told to
belong to the column that covers it or that comes next. -/
theorem laid_out (rows : List SessionRow) (total : Nat) : LaidOut rows total where
  tiled := tiled_ofWidths rfl
  titled := by
    have host : Width.ofText "Host".toList ≤ minHostWidth := by decide +kernel
    exact .cons (title_le_contentWidth (by decide +kernel) _) <|
      .cons (title_le_contentWidth (by decide +kernel) _) <| .cons (by decide +kernel) <|
      .cons (Nat.le_trans host (Nat.le_max_right ..)) <|
      .cons (title_le_contentWidth (by decide +kernel) _) <| .cons (by decide +kernel) .nil
  steady := by
    intro rows' total' same
    simp only [ofRows, ofWidths, host, List.eraseIdx_cons_succ, List.eraseIdx_cons_zero]
    rw [Column.contentWidth_perm (same.map _), Column.contentWidth_perm (same.map _),
      Column.contentWidth_perm (same.map _)]
  fills := by
    intro start width places room
    rw [end_of_places_last places, Nat.max_eq_left (by omega)]
    omega
  narrow := by
    intro narrow
    rw [width_host, Nat.max_eq_right (by omega)]

end ColumnLayout

end SessionBoard
