import SessionBoard.Text.Width

namespace SessionBoard.Text

theorem exists_of_inRanges {ranges : List (Nat × Nat)} {n : Nat} (within : inRanges ranges n) :
    ∃ range ∈ ranges, range.1 ≤ n ∧ n ≤ range.2 := by
  induction ranges with
  | nil => cases within
  | cons range ranges ih =>
    simp only [inRanges, Bool.and_eq_true, Bool.or_eq_true, decide_eq_true_eq] at within
    obtain ⟨least, most | later⟩ := within
    · exact ⟨range, List.mem_cons_self, least, most⟩
    · obtain ⟨other, member, bounds⟩ := ih later
      exact ⟨other, List.mem_cons_of_mem _ member, bounds⟩

/-- Whether no range of the one list meets one of the other. -/
def apart (ranges others : List (Nat × Nat)) : Bool :=
  ranges.all fun range => others.all fun other => range.2.blt other.1 || other.2.blt range.1

theorem not_inRanges_of_apart {ranges others : List (Nat × Nat)} (apart : apart ranges others) {n : Nat}
    (within : inRanges ranges n) : inRanges others n = false := by
  rw [Bool.eq_false_iff]
  intro also
  obtain ⟨range, member, least, most⟩ := exists_of_inRanges within
  obtain ⟨other, member', least', most'⟩ := exists_of_inRanges also
  simp only [Text.apart, List.all_eq_true, Bool.or_eq_true, Nat.blt_eq] at apart
  rcases apart range member other member' with before | before <;> omega

namespace Width

variable {char : Char} {text : List Char} {context : Context} {following : Following}

theorem one_le_ofPrintable (visible : inRanges zeroWidth char.toNat = false) : 1 ≤ ofPrintable char := by
  simp only [ofPrintable, visible, Bool.false_eq_true, if_false]
  repeat' split
  all_goals omega

theorem ofChar_of_printable (printable : isControl char = false) : ofChar char = ofPrintable char := by
  simp [ofChar, printable]

/-- Every character of these ranges takes a column at least. -/
theorem one_le_of_inRanges (ranges : List (Nat × Nat)) (visible : apart ranges zeroWidth)
    (within : inRanges ranges char.toNat) : 1 ≤ ofPrintable char :=
  one_le_ofPrintable (not_inRanges_of_apart visible within)

theorem one_le_of_regional (regional : isRegional char.toNat) : 1 ≤ ofPrintable char := by
  refine one_le_of_inRanges [(0x1f1e6, 0x1f1ff)] (by decide +kernel) ?_
  simpa [isRegional, inRanges] using regional

theorem one_le_of_coengLetter (letter : isCoengLetter char.toNat) : 1 ≤ ofPrintable char :=
  one_le_of_inRanges _ (by decide +kernel) letter

theorem one_le_of_plainStart (emoji : inRanges plainStart char.toNat) : 1 ≤ ofPrintable char :=
  one_le_of_inRanges _ (by decide +kernel) emoji

def Ligature.owed : Ligature → Nat
  | .coengLetter | .joinedTifinagh => 1
  | _ => 0

/-- The columns of what follows that the next character may take back. -/
def Following.owed : Following → Nat
  | .ligature kind _ => kind.owed
  | .joinedRegional => 1
  | .joinedRegionals even => if even then 0 else 1
  | _ => 0

/-- The columns that regional letters with an emoji behind them lag behind, until the next one. -/
def Following.lag : Following → Nat
  | .joinedRegionals even => if even then 2 else 0
  | _ => 0

@[simp] theorem owed_plain : Following.plain.owed = 0 := rfl

@[simp] theorem owed_lineFeed : Following.lineFeed.owed = 0 := rfl

@[simp] theorem owed_emoji : Following.emoji.owed = 0 := rfl

@[simp] theorem lag_plain : Following.plain.lag = 0 := rfl

@[simp] theorem lag_lineFeed : Following.lineFeed.lag = 0 := rfl

theorem owed_ofChar (char : Char) : (Following.ofChar char).owed ≤ ofPrintable char := by
  fun_cases Following.ofChar char
  case case5 letter => exact one_le_of_coengLetter letter
  all_goals exact Nat.zero_le _

theorem lag_ofChar (char : Char) : (Following.ofChar char).lag = 0 := by
  fun_cases Following.ofChar char <;> rfl

theorem owed_joinWith (char : Char) (following : Following) :
    ∀ measured ∈ joinWith char following,
      (measured.2.following.owed : Int) ≤ following.owed + measured.1 := by
  fun_cases joinWith char following
  all_goals rintro _ ⟨⟩
  all_goals simp only [next, Following.owed, Ligature.owed, if_true]
  -- From the third letter before a joined emoji on columns are added and taken back in turn.
  case case47 even _ => cases even <;> decide
  all_goals omega

theorem lag_joinWith (char : Char) (following : Following) :
    ∀ measured ∈ joinWith char following,
      measured.1 + measured.2.following.lag ≤ following.lag + ofPrintable char := by
  have joiner : char.toNat = 0x2d7f → 1 ≤ ofPrintable char :=
    fun same => one_le_ofPrintable (same ▸ by decide +kernel)
  have vowel : char.toNat = 0x16d68 → 1 ≤ ofPrintable char :=
    fun same => one_le_ofPrintable (same ▸ by decide +kernel)
  fun_cases joinWith char following
  all_goals rintro _ ⟨⟩
  all_goals simp only [next, Following.lag, if_true]
  case case47 even regional =>
    have visible := one_le_of_regional regional
    cases even <;> simp only [Bool.not_true, Bool.not_false, if_true, Bool.false_eq_true, if_false] <;> omega
  all_goals first
    | omega
    | have visible := one_le_of_regional ‹_›
      omega

theorem owed_withPicture (context : Context) : context.withPicture.following.owed ≤ context.following.owed := by
  unfold Context.withPicture
  split <;> simp

theorem owed_withText (context : Context) : context.withText.following.owed ≤ context.following.owed := by
  unfold Context.withText
  split <;> simp

theorem owed_step (char : Char) (context : Context) :
    ((step char context).2.following.owed : Int) ≤ context.following.owed + (step char context).1 := by
  have alone := owed_ofChar char
  have picture := owed_withPicture context
  have plain := owed_withText context
  fun_cases step char context
  case case8 joins => exact owed_joinWith _ _ _ joins
  -- A picture has two columns or none, but it never takes any back.
  case case1 =>
    simp only [next, owed_emoji]
    split <;> omega
  all_goals
    simp only [next, owed_plain, owed_lineFeed]
    omega

theorem selector_joinWith (char : Char) (following : Following) :
    ∀ measured ∈ joinWith char following, measured.2.selector = .none := by
  fun_cases joinWith char following
  all_goals rintro _ ⟨⟩
  all_goals rfl

/-- A character that has the columns it has on its own, or fewer, wherever it stands: it is no control and
makes no picture of what stands before it. -/
def isSimple (char : Char) : Bool :=
  !isControl char && char.toNat != 0xfe0f

theorem lag_withText (context : Context) : context.withText.following.lag ≤ context.following.lag := by
  unfold Context.withText
  split <;> simp

theorem selector_withText (context : Context) : context.withText.selector = .plain := by
  unfold Context.withText
  split <;> rfl

theorem lag_step (simple : isSimple char) (noPicture : context.selector ≠ .picture) :
    (step char context).1 + (step char context).2.following.lag ≤ context.following.lag + ofChar char ∧
      (step char context).2.selector ≠ .picture := by
  simp only [isSimple, Bool.and_eq_true, Bool.not_eq_true', bne_iff_ne, ne_eq] at simple
  have alone := lag_ofChar char
  have early : char.toNat ≤ 0xa0 → 1 ≤ ofPrintable char := fun early =>
    one_le_of_inRanges [(0, 0xa0)] (by decide +kernel) (by simpa [inRanges] using early)
  rw [ofChar_of_printable simple.1]
  fun_cases step char context
  -- Only a picture may be wider than its characters, and nothing in a simple text asks for one.
  case case1 picture => exact absurd picture.1 noPicture
  case case5 picture => exact absurd picture simple.2
  case case6 =>
    have plain := lag_withText context
    exact ⟨by simp only []; omega, by simp only [selector_withText]; decide⟩
  case case7 emoji =>
    have visible := one_le_of_plainStart emoji.2
    exact ⟨by simp only [next, lag_plain]; omega, nofun⟩
  case case8 joins =>
    exact ⟨lag_joinWith _ _ _ joins, by rw [selector_joinWith _ _ _ joins]; decide⟩
  all_goals
    refine ⟨?_, nofun⟩
    simp only [next, lag_plain, lag_lineFeed, alone]
    omega

theorem measure_cons (char : Char) (text : List Char) : measure (char :: text) =
    ((measure text).1 + (step char (measure text).2).1, (step char (measure text).2).2) :=
  rfl

/-- What may be taken back has been counted before. -/
theorem owed_le_measure (text : List Char) : ((measure text).2.following.owed : Int) ≤ (measure text).1 := by
  induction text with
  | nil => exact Int.le_refl 0
  | cons char text ih =>
    have taken := owed_step char (measure text).2
    simp only [measure_cons]
    omega

theorem ofText_eq_measure (text : List Char) : (ofText text : Int) = (measure text).1 := by
  have counted := owed_le_measure text
  rw [ofText, Int.toNat_of_nonneg (by omega)]

/-- Where a text is followed by one that leaves nothing open their widths add up. -/
theorem measure_append {later : List Char} {columns : Int} (closed : measure later = next columns .plain) :
    measure (text ++ later) = ((measure text).1 + columns, (measure text).2) := by
  induction text with
  | nil => rw [List.nil_append, closed, next, measure, Int.zero_add]
  | cons char text ih => rw [List.cons_append, measure_cons, ih, measure_cons, Int.add_right_comm]

theorem ofText_append {later : List Char} (closed : (measure later).2 = {}) :
    ofText (text ++ later) = ofText text + ofText later := by
  have whole := ofText_eq_measure (text ++ later)
  have parts : measure later = next (measure later).1 .plain := Prod.ext rfl closed
  rw [measure_append parts, ← ofText_eq_measure, ← ofText_eq_measure] at whole
  exact Int.ofNat.inj whole

theorem step_blank (context : Context) : step ' ' context = next 1 .plain := by
  have noPicture : inRanges pictureStart 32 = false := by decide +kernel
  simp [step, noPicture]

theorem ofText_blank_cons (text : List Char) : ofText (' ' :: text) = ofText text + 1 := by
  have whole := ofText_eq_measure (' ' :: text)
  rw [measure_cons, step_blank, ← ofText_eq_measure] at whole
  exact Int.ofNat.inj whole

theorem ofText_blanks_append (count : Nat) (later : List Char) :
    ofText (List.replicate count ' ' ++ later) = ofText later + count := by
  induction count with
  | zero => rfl
  | succ count ih => rw [List.replicate_succ, List.cons_append, ofText_blank_cons, ih, Nat.add_assoc]

/-- Nothing that follows a blank has to do with what stands before it. -/
theorem ofText_append_blank (text later : List Char) :
    ofText (text ++ ' ' :: later) = ofText text + ofText (' ' :: later) :=
  ofText_append (by rw [measure_cons, step_blank]; rfl)

theorem ofText_append_blanks_append (text : List Char) {count : Nat} (positive : 0 < count)
    (later : List Char) :
    ofText (text ++ (List.replicate count ' ' ++ later)) = ofText text + count + ofText later := by
  obtain ⟨count, rfl⟩ := Nat.exists_eq_add_one.mpr positive
  rw [List.replicate_succ, List.cons_append, ofText_append_blank, ← List.cons_append, ← List.replicate_succ,
    ofText_blanks_append]
  omega

theorem ofText_append_blanks (text : List Char) (count : Nat) :
    ofText (text ++ List.replicate count ' ') = ofText text + count := by
  rcases Nat.eq_zero_or_pos count with rfl | positive
  · rw [List.replicate_zero, List.append_nil, Nat.add_zero]
  · have parts := ofText_append_blanks_append text positive []
    rwa [List.append_nil] at parts

theorem ofText_append_ellipsis (text : List Char) : ofText (text ++ ['…']) = ofText text + 1 := by
  have single : ofText ['…'] = 1 := by decide +kernel
  rw [ofText_append (by decide +kernel), single]

/-- The columns of the characters of a text, each on its own. -/
def spread : List Char → Nat
  | [] => 0
  | char :: text => ofChar char + spread text

theorem spread_cons (char : Char) (text : List Char) : spread (char :: text) = ofChar char + spread text :=
  rfl

theorem spread_append (text later : List Char) : spread (text ++ later) = spread text + spread later := by
  induction text with
  | nil => exact (Nat.zero_add _).symm
  | cons char text ih => rw [List.cons_append, spread_cons, ih, spread_cons, Nat.add_assoc]

theorem lag_measure (simple : ∀ char ∈ text, isSimple char) :
    (measure text).1 + (measure text).2.following.lag ≤ spread text ∧
      (measure text).2.selector ≠ .picture := by
  induction text with
  | nil => exact ⟨Int.le_refl 0, nofun⟩
  | cons char text ih =>
    obtain ⟨first, others⟩ := List.forall_mem_cons.mp simple
    obtain ⟨most, noPicture⟩ := ih others
    obtain ⟨more, still⟩ := lag_step first noPicture
    rw [measure_cons, spread_cons]
    exact ⟨by simp only []; omega, still⟩

/-- A text of simple characters is no wider than they are together. -/
theorem ofText_le_spread (simple : ∀ char ∈ text, isSimple char) : ofText text ≤ spread text := by
  have whole := ofText_eq_measure text
  have most := (lag_measure simple).1
  omega

end Width

end SessionBoard.Text
