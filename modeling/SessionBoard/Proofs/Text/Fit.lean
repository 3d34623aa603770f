import SessionBoard.Proofs.Text.Width
import SessionBoard.Text.Fit

namespace SessionBoard.Text

open Width (ofChar ofText spread spread_cons isSimple)

variable {text : List Char} {width index column : Nat}

/-- The characters that are shown of a text. -/
def shown (text : List Char) (width : Nat) : List Char :=
  if ofText text ≤ width then text else if width ≤ 1 then [] else keepWithin width 0 text

/-- What stands for the characters that are left out. -/
def ellipsis (text : List Char) (width : Nat) : List Char :=
  if ofText text ≤ width ∨ width = 0 then [] else ['…']

theorem shown_of_le (fits : ofText text ≤ width) : shown text width = text :=
  if_pos fits

theorem ellipsis_of_le (fits : ofText text ≤ width) : ellipsis text width = [] :=
  if_pos (.inl fits)

theorem truncate_eq (text : List Char) (width : Nat) :
    truncate text width = shown text width ++ ellipsis text width := by
  unfold truncate shown ellipsis
  by_cases fits : ofText text ≤ width
  · simp [fits]
  · rcases Nat.lt_trichotomy width 1 with none | one | more
    · simp [Nat.lt_one_iff.mp none]
    · subst one
      simp [fits]
    · simp [fits, Nat.ne_of_gt more, Nat.ne_zero_of_lt more, Nat.not_le.mpr more]

theorem fit_eq (text : List Char) (width : Nat) : fit text width =
    shown text width ++ (ellipsis text width ++
      List.replicate (width - ofText (truncate text width)) ' ') := by
  rw [fit, truncate_eq, List.append_assoc]

theorem isPrefix_keepWithin (width used : Nat) (text : List Char) : keepWithin width used text <+: text := by
  induction text generalizing used with
  | nil => exact List.nil_prefix
  | cons char text ih =>
    simp only [keepWithin]
    split
    · exact List.nil_prefix
    · exact List.cons_prefix_cons.mpr ⟨rfl, ih _⟩

theorem isPrefix_shown (text : List Char) (width : Nat) : shown text width <+: text := by
  unfold shown
  split
  · exact List.prefix_rfl
  · split
    · exact List.nil_prefix
    · exact isPrefix_keepWithin width 0 text

/-- What is shown of a text stands in front, as it does in the text. -/
theorem take_fit (shows : index ≤ (shown text width).length) :
    (fit text width).take index = text.take index := by
  obtain ⟨rest, whole⟩ := isPrefix_shown text width
  have start : (shown text width ++ rest).take index = (shown text width).take index :=
    List.take_append_of_le_length shows
  rw [whole] at start
  rw [fit_eq, List.take_append_of_le_length shows, start]

theorem getElem?_fit (bound : index < (shown text width).length) : (fit text width)[index]? = text[index]? := by
  have start := congrArg (fun taken => taken[index]?) (take_fit bound)
  simp only [List.getElem?_take_of_lt (Nat.lt_succ_self index)] at start
  exact start

/-- There is room left for the ellipsis, character by character. -/
theorem spread_keepWithin {used : Nat} (room : used + 1 ≤ width) (text : List Char) :
    used + spread (keepWithin width used text) + 1 ≤ width := by
  induction text generalizing used with
  | nil => exact room
  | cons char text ih =>
    simp only [keepWithin]
    split
    · exact room
    · rw [spread_cons]
      have left : used + ofChar char + 1 ≤ width := by omega
      have rest := ih left
      omega

theorem ofText_fit (text : List Char) (width : Nat) :
    ofText (fit text width) = max width (ofText (truncate text width)) := by
  rw [fit, Width.ofText_append_blanks]
  omega

theorem fit_of_le (fits : ofText text ≤ width) :
    fit text width = text ++ List.replicate (width - ofText text) ' ' := by
  rw [fit, truncate_eq, shown_of_le fits, ellipsis_of_le fits, List.append_nil]

theorem ofText_truncate_of_lt (long : width < ofText text) (positive : 0 < width) :
    ofText (truncate text width) = ofText (shown text width) + 1 := by
  have cut : ellipsis text width = ['…'] := if_neg (by omega)
  rw [truncate_eq, cut, Width.ofText_append_ellipsis]

/-- A text is fitted exactly if it is short enough, or if what is shown leaves a column for the ellipsis. -/
theorem ofText_fit_eq_iff : ofText (fit text width) = width ↔
    ofText text ≤ width ∨ width = 0 ∨ ofText (shown text width) < width := by
  rw [ofText_fit]
  -- The ellipsis is one column, so all hangs on what is shown before it.
  rcases Nat.lt_or_ge width (ofText text) with long | fits
  · rcases Nat.eq_zero_or_pos width with rfl | positive
    · have nothing : truncate text 0 = [] := by simp [truncate, Nat.ne_of_gt long]
      simp [nothing, ofText, Width.measure]
    · rw [ofText_truncate_of_lt long positive]
      omega
  · have whole : truncate text width = text := if_pos fits
    rw [whole]
    omega

theorem ofText_shown_lt_of_simple (simple : ∀ char ∈ text, isSimple char) (long : width < ofText text)
    (positive : 0 < width) : ofText (shown text width) < width := by
  have most : ofText (shown text width) ≤ spread (shown text width) :=
    Width.ofText_le_spread fun char member => simple char ((isPrefix_shown text width).subset member)
  have kept : spread (shown text width) < width := by
    rw [shown, if_neg (Nat.not_le.mpr long)]
    split
    · exact positive
    · have empty : 0 + 1 ≤ width := positive
      have room := spread_keepWithin empty text
      omega
  omega

/-- The character at this index covers the column, as the columns are counted character by character. -/
def Covers (text : List Char) (index column : Nat) : Prop :=
  spread (text.take index) ≤ column ∧ column < spread (text.take (index + 1))

instance : Decidable (Covers text index column) :=
  inferInstanceAs (Decidable (_ ∧ _))

/-- The pointer is at or past a character exactly if those before it end there or earlier. -/
theorem le_charIndexAt_iff :
    index ≤ charIndexAt text column ↔ index ≤ text.length ∧ spread (text.take index) ≤ column := by
  induction text generalizing index column with
  | nil => simp [charIndexAt, spread]
  | cons char text ih =>
    cases index with
    | zero => simp [spread]
    | succ index =>
      simp only [charIndexAt, List.take_succ_cons, spread_cons, List.length_cons]
      split
      · omega
      · rw [Nat.add_le_add_iff_right, ih]
        omega

theorem charIndexAt_le_length (text : List Char) (column : Nat) : charIndexAt text column ≤ text.length :=
  (le_charIndexAt_iff.mp (Nat.le_refl _)).1

theorem charIndexAt_mono (text : List Char) {column column' : Nat} (le : column ≤ column') :
    charIndexAt text column ≤ charIndexAt text column' := by
  obtain ⟨bound, before⟩ := le_charIndexAt_iff.mp (Nat.le_refl (charIndexAt text column))
  exact le_charIndexAt_iff.mpr ⟨bound, Nat.le_trans before le⟩

theorem charIndexAt_of_covers (covers : Covers text index column) (bound : index < text.length) :
    charIndexAt text column = index := by
  have least := le_charIndexAt_iff.mpr ⟨Nat.le_of_lt bound, covers.1⟩
  have most : ¬index + 1 ≤ charIndexAt text column := fun past =>
    Nat.not_lt.mpr (le_charIndexAt_iff.mp past).2 covers.2
  omega

/-- Past all the characters is their number. -/
theorem charIndexAt_of_spread_le (past : spread text ≤ column) : charIndexAt text column = text.length := by
  refine Nat.le_antisymm (charIndexAt_le_length text column) (le_charIndexAt_iff.mpr ⟨Nat.le_refl _, ?_⟩)
  rwa [List.take_length]

end SessionBoard.Text
