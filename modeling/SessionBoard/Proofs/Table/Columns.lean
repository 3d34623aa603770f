import SessionBoard.Proofs.Table.Bounds

namespace SessionBoard.ColumnLayout

open Column (gap)

variable {widths : List Nat} {x y column column' distance distance' : Nat}

/-- Where a column starts: after the columns before it and a gap for each of them. -/
def startOf : List Nat → (column : Nat) → Nat
  | width :: widths, column + 1 => width + gap + startOf widths column
  | _, _ => 0

/-- Where a column ends, the gap after it left out. -/
def endOf (widths : List Nat) (column : Nat) : Nat :=
  startOf widths column + widths.getD column 0

theorem startOf_cons_succ (width : Nat) (widths : List Nat) (column : Nat) :
    startOf (width :: widths) (column + 1) = width + gap + startOf widths column :=
  rfl

theorem getElem?_startsFrom (x : Nat) {widths : List Nat} {column : Nat} (bound : column < widths.length) :
    (startsFrom x widths)[column]? = some (x + startOf widths column) := by
  induction widths generalizing x column with
  | nil => cases bound
  | cons width widths ih =>
    cases column with
    | zero => rfl
    | succ column =>
      rw [startsFrom, List.getElem?_cons_succ, ih _ (Nat.lt_of_succ_lt_succ bound), startOf_cons_succ,
        Nat.add_assoc x, Nat.add_assoc]

theorem starts_ofWidths (bound : column < widths.length) :
    (ofWidths widths).starts[column]? = some (startOf widths column) := by
  have start := getElem?_startsFrom 0 bound
  rwa [Nat.zero_add] at start

theorem endOf_eq (bound : column < widths.length) :
    endOf widths column = startOf widths column + widths[column] := by
  rw [endOf, List.getD_eq_getElem?_getD, List.getElem?_eq_getElem bound, Option.getD_some]

theorem getElem?_columns (bound : column < widths.length) :
    ((ofWidths widths).starts.zip (ofWidths widths).widths)[column]? =
      some (startOf widths column, widths[column]) := by
  rw [List.getElem?_zip_eq_some]
  exact ⟨starts_ofWidths bound, List.getElem?_eq_getElem bound⟩

/-- The column that is found ends past the point, and it is the first one to. -/
theorem of_find?_eq_some {index : Nat} {columns : List (Nat × Nat)}
    (found : find? x index columns = some (column, distance)) : ∃ start width,
      index ≤ column ∧ columns[column - index]? = some (start, width) ∧ x < start + width ∧
      distance = x - start ∧
      ∀ place < column - index, ∀ other ∈ columns[place]?, other.1 + other.2 ≤ x := by
  induction columns generalizing index with
  | nil => cases found
  | cons first columns ih =>
    obtain ⟨start, width⟩ := first
    unfold find? at found
    split at found
    · cases found
      exact ⟨start, width, Nat.le_refl _, by simp, ‹_›, rfl, by simp⟩
    · rename_i past
      obtain ⟨start', width', least, atColumn, within, same, earlier⟩ := ih found
      have further : column - index = column - (index + 1) + 1 := by omega
      refine ⟨start', width', by omega, by rwa [further, List.getElem?_cons_succ], within, same, ?_⟩
      rw [further]
      rintro (_ | place) before other member
      · cases member
        exact Nat.not_lt.mp past
      · exact earlier place (Nat.lt_of_succ_lt_succ before) other member

/-- Columns that are no narrower start no earlier, and where they would if those before are no wider either. -/
theorem startOf_le {α : Type} {items : List α} {least size : α → Nat}
    (le : ∀ item ∈ items, least item ≤ size item) (column : Nat) :
    startOf (items.map least) column ≤ startOf (items.map size) column ∧
      (startOf (items.map size) column = startOf (items.map least) column ↔
        ∀ item ∈ items.take column, size item = least item) := by
  induction items generalizing column with
  | nil => simp [startOf]
  | cons item items ih =>
    cases column with
    | zero => simp [startOf]
    | succ column =>
      obtain ⟨here, others⟩ := List.forall_mem_cons.mp le
      obtain ⟨later, exact_iff⟩ := ih others column
      rw [List.map_cons, List.map_cons, startOf_cons_succ, startOf_cons_succ, List.take_succ_cons,
        List.forall_mem_cons, ← exact_iff]
      omega

/-- A point of the line is told to belong to a column, at a distance from its start. A column has the gap
before it, and the last one has all that is left of the line. -/
structure Finds (widths : List Nat) (x column distance : Nat) : Prop where
  bound : column < widths.length
  distance : distance = x - startOf widths column
  past : ∀ earlier < column, endOf widths earlier ≤ x
  within : x < endOf widths column ∨ column + 1 = widths.length

theorem finds_of_columnAt (found : (ofWidths widths).columnAt x = .ok (column, distance)) :
    Finds widths x column distance := by
  unfold columnAt at found
  split at found
  · rename_i place atPlace
    cases found
    have bound := find?_lt atPlace
    obtain ⟨start, width, _, atColumn, within, same, earlier⟩ := of_find?_eq_some atPlace
    rw [length_columns, Nat.zero_add] at bound
    rw [Nat.sub_zero] at atColumn earlier
    cases (getElem?_columns bound).symm.trans atColumn
    refine ⟨bound, same, fun other before => ?_, .inl (endOf_eq bound ▸ within)⟩
    have inside : other < widths.length := Nat.lt_trans before bound
    rw [endOf_eq inside]
    exact earlier other before _ (getElem?_columns inside)
  · -- All columns end before the point, and the last one takes it.
    rename_i none
    obtain ⟨last, atLast, rest⟩ := Checked.bind_eq_ok.mp found
    obtain ⟨start, atStart, rest⟩ := Checked.bind_eq_ok.mp rest
    obtain ⟨far, atFar, same⟩ := Checked.bind_eq_ok.mp rest
    cases same
    obtain ⟨positive, rfl⟩ := Checked.sub_eq_ok.mp atLast
    obtain ⟨_, rfl⟩ := Checked.sub_eq_ok.mp atFar
    have final : (ofWidths widths).widths.length - 1 + 1 = widths.length := Nat.sub_add_cancel positive
    have bound : (ofWidths widths).widths.length - 1 < widths.length := by omega
    cases (starts_ofWidths bound).symm.trans (Checked.get_eq_ok.mp atStart)
    refine ⟨bound, rfl, fun earlier before => ?_, .inr final⟩
    have inside : earlier < widths.length := Nat.lt_trans before bound
    rw [endOf_eq inside]
    exact le_of_find?_eq_none none (List.mem_of_getElem? (getElem?_columns inside))

/-- Further to the right is the same column or a later one, and no less far from its start. -/
theorem Finds.mono (finds : Finds widths x column distance) (finds' : Finds widths y column' distance')
    (le : x ≤ y) : column < column' ∨ column = column' ∧ distance ≤ distance' := by
  rcases Nat.lt_trichotomy column column' with before | rfl | after
  · exact .inl before
  · rw [finds.distance, finds'.distance]
    exact .inr ⟨rfl, Nat.sub_le_sub_right le _⟩
  · -- The other point is past the end of that column, and it is not the last one.
    have past := finds.past column' after
    have bound := finds.bound
    have within := finds'.within
    omega

end SessionBoard.ColumnLayout
