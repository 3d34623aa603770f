import Mathlib.Logic.Function.Iterate
import SessionBoard.Proofs.Reach
import SessionBoard.Proofs.Table.Displays

namespace SessionBoard.TableState

variable {table table' : TableState} {offset index : Nat}

/-- The row on a line of the view. The first line has the first row that is not scrolled past. -/
def rowOn (table : TableState) (line : Nat) : Option SessionRow :=
  if line < table.viewportHeight then table.rows[table.scrollOffset + line]? else none

theorem getElem?_visible (table : TableState) (line : Nat) :
    ((table.rows.drop table.scrollOffset).take table.viewportHeight)[line]? = table.rowOn line := by
  rw [List.getElem?_take, List.getElem?_drop, rowOn]

/-- The row at this index is in view, as far below the first line as it is below the first row in view. -/
def InView (table : TableState) (index : Nat) : Prop :=
  table.scrollOffset ≤ index ∧ ∃ visible row, table.visibleRows = .ok visible ∧
    table.rows[index]? = some row ∧ visible[index - table.scrollOffset]? = some row

theorem inView_iff : table.InView index ↔ table.scrollOffset ≤ index ∧
    index < table.scrollOffset + table.viewportHeight ∧ index < table.rows.length := by
  refine and_congr_right fun least => ?_
  have onward : table.scrollOffset + (index - table.scrollOffset) = index := by omega
  constructor
  · rintro ⟨visible, row, view, atIndex, atLine⟩
    cases view.symm.trans table.visibleRows_eq
    rw [getElem?_visible, rowOn] at atLine
    obtain ⟨bound, _⟩ := List.getElem?_eq_some_iff.mp atIndex
    split at atLine
    · exact ⟨by omega, bound⟩
    · cases atLine
  · rintro ⟨within, bound⟩
    refine ⟨_, _, table.visibleRows_eq, List.getElem?_eq_getElem bound, ?_⟩
    rw [getElem?_visible, rowOn, if_pos (by omega), onward]
    exact List.getElem?_eq_getElem bound

/-- The table scrolled to an offset. -/
def scrolledTo (table : TableState) (offset : Nat) : TableState :=
  { table with scrollOffset := offset }

theorem scrollBy_scrolledTo (table : TableState) (offset : Nat) (delta : Int) :
    (table.scrolledTo offset).scrollBy delta =
      table.scrolledTo (min (offset + delta).toNat table.maxScroll) :=
  rfl

theorem pageDown_scrolledTo (positive : 0 < table.viewportHeight) (offset : Nat) :
    (table.scrolledTo offset).pageDown =
      table.scrolledTo (min (offset + table.viewportHeight) table.maxScroll) := by
  have page : max (table.scrolledTo offset).viewportHeight 1 = table.viewportHeight := Nat.max_eq_left positive
  rw [pageDown, scrollBy_scrolledTo, page]
  rfl

theorem pageUp_scrolledTo (positive : 0 < table.viewportHeight) (offset : Nat) :
    (table.scrolledTo offset).pageUp =
      table.scrolledTo (min (offset - table.viewportHeight) table.maxScroll) := by
  have page : max (table.scrolledTo offset).viewportHeight 1 = table.viewportHeight := Nat.max_eq_left positive
  rw [pageUp, scrollBy_scrolledTo, page]
  congr 2
  omega

theorem pageDown_iterate (positive : 0 < table.viewportHeight) (pages : Nat) :
    pageDown^[pages] table.scrollToTop =
      table.scrolledTo (min (pages * table.viewportHeight) table.maxScroll) := by
  induction pages with
  | zero => rw [Nat.zero_mul, Nat.zero_min]; rfl
  | succ pages ih =>
    rw [Function.iterate_succ_apply', ih, pageDown_scrolledTo positive, Nat.succ_mul]
    congr 1
    omega

theorem pageUp_iterate (positive : 0 < table.viewportHeight) (pages : Nat) :
    pageUp^[pages] table.scrollToBottom =
      table.scrolledTo (table.maxScroll - pages * table.viewportHeight) := by
  induction pages with
  | zero => rw [Nat.zero_mul, Nat.sub_zero]; rfl
  | succ pages ih =>
    rw [Function.iterate_succ_apply', ih, pageUp_scrolledTo positive, Nat.succ_mul]
    congr 1
    omega

/-- Page by page the table gets from one end to the other one, where it stays, and every row is in view on
the way. -/
def Pages (turn : TableState → TableState) (first last : TableState) : Prop :=
  ∃ enough, (∀ pages, enough ≤ pages → turn^[pages] first = last) ∧
    ∀ index < first.rows.length, ∃ pages ≤ enough, (turn^[pages] first).InView index

theorem pages_of_offsets {turn : TableState → TableState} {first : TableState} {offsets : Nat → Nat}
    {final enough : Nat} (turned : ∀ pages, turn^[pages] first = table.scrolledTo (offsets pages))
    (stays : ∀ pages, enough ≤ pages → offsets pages = final)
    (shows : ∀ index < table.rows.length, ∃ pages, offsets pages ≤ index ∧
      index < offsets pages + table.viewportHeight) :
    Pages turn first (table.scrolledTo final) := by
  refine ⟨enough, fun pages past => by rw [turned, stays pages past], fun index bound => ?_⟩
  have rows : first.rows = table.rows := (congrArg TableState.rows (turned 0) :)
  rw [rows] at bound
  obtain ⟨pages, least, most⟩ := shows index bound
  -- A page past the last turn is that of the last turn.
  have same : offsets (min pages enough) = offsets pages := by
    rcases Nat.le_total pages enough with early | late
    · rw [Nat.min_eq_left early]
    · rw [Nat.min_eq_right late, stays _ (Nat.le_refl _), stays _ late]
  refine ⟨min pages enough, Nat.min_le_right .., ?_⟩
  rw [turned, inView_iff, same]
  exact ⟨least, most, bound⟩

theorem maxScroll_le_mul (positive : 0 < table.viewportHeight) {pages : Nat} (enough : table.maxScroll ≤ pages) :
    table.maxScroll ≤ pages * table.viewportHeight :=
  Nat.le_trans enough (Nat.le_mul_of_pos_right pages positive)

theorem pages_down (positive : 0 < table.viewportHeight) :
    Pages pageDown table.scrollToTop table.scrollToBottom := by
  refine pages_of_offsets (pageDown_iterate positive)
    (fun pages enough => Nat.min_eq_right (maxScroll_le_mul positive enough)) fun index bound => ?_
  have least := Nat.div_mul_le_self index table.viewportHeight
  have most := Nat.lt_div_mul_add (a := index) positive
  refine ⟨index / table.viewportHeight, by omega, ?_⟩
  unfold maxScroll
  omega

theorem pages_up (positive : 0 < table.viewportHeight) :
    Pages pageUp table.scrollToBottom table.scrollToTop := by
  refine pages_of_offsets (pageUp_iterate positive)
    (fun pages enough => Nat.sub_eq_zero_of_le (maxScroll_le_mul positive enough)) fun index bound => ?_
  -- Pages are counted from the last row.
  have least := Nat.div_mul_le_self (table.rows.length - 1 - index) table.viewportHeight
  have most := Nat.lt_div_mul_add (a := table.rows.length - 1 - index) positive
  refine ⟨(table.rows.length - 1 - index) / table.viewportHeight, ?_, ?_⟩ <;>
    unfold maxScroll <;> omega

inductive WindowMove
  | snapshot (snapshot : Snapshot) (now : Clock)
  | tick (now : Clock)
  | viewport (width height : Nat)
  | scroll (lines : Int)
  | pageUp
  | pageDown
  | top
  | bottom

def moveWindow? (table : TableState) : WindowMove → Option TableState
  | .snapshot snapshot now => some (table.applySnapshot snapshot now).1
  | .tick now => some (table.tick now).1
  | .viewport width height => some (table.setViewport width height)
  | .scroll lines => some (table.scrollBy lines)
  | .pageUp => some table.pageUp
  | .pageDown => some table.pageDown
  | .top => some table.scrollToTop
  | .bottom => some table.scrollToBottom

theorem Kept.moveWindow (kept : table.Kept) {move : WindowMove}
    (taken : table.moveWindow? move = some table') : table'.Kept := by
  cases move <;> cases taken
  case snapshot => exact kept_applySnapshot ..
  case tick now => exact kept.tick now
  case viewport width height => exact kept.setViewport width height
  case scroll | pageUp | pageDown => exact kept.scrollBy _
  case top => exact ⟨kept.onTime, Nat.zero_le _⟩
  case bottom => exact ⟨kept.onTime, Nat.le_refl _⟩

/-- What is in view of a table, and how to get to the rest of it. -/
structure Windowed (table : TableState) : Prop where
  bound : table.scrollOffset ≤ table.rows.length - table.viewportHeight
  /-- A block of rows that is as long as the view is high, if there are enough of them. -/
  view : ∃ visible, table.visibleRows = .ok visible ∧
    visible = table.rows.extract table.scrollOffset
      (min (table.scrollOffset + table.viewportHeight) table.rows.length) ∧
    visible.length = min table.viewportHeight table.rows.length
  down : 0 < table.viewportHeight → Pages pageDown table.scrollToTop table.scrollToBottom
  up : 0 < table.viewportHeight → Pages pageUp table.scrollToBottom table.scrollToTop

theorem Kept.windowed (kept : table.Kept) : table.Windowed where
  bound := kept.scroll
  view := by
    have within : table.scrollOffset ≤ table.rows.length - table.viewportHeight := kept.scroll
    refine ⟨_, table.visibleRows_eq, ?_, ?_⟩
    · rw [List.extract_eq_take_drop, List.take_eq_take_iff, List.length_drop]
      omega
    · rw [List.length_take, List.length_drop]
      omega
  down := pages_down
  up := pages_up

/-- Whatever happens to the rows and to the size of the view, and however far it is scrolled, the view is a
block of rows without a blank line that could show one, and page by page it goes over all of them, in either
direction. -/
theorem window_kept {start : Clock} {interval : Nat} {past : List (TableState × WindowMove)}
    (reach : Reach moveWindow? (.start start interval) past table) : table.Windowed :=
  (reach.invariant Kept (kept_start start interval) fun _ _ _ kept taken => kept.moveWindow taken).windowed

/-- A table that was scrolled to its end loses rows, and the view gets higher. -/
theorem window_kept_of_fewer_rows :
    ∃ past table, Reach moveWindow? (.start ⟨0, 0⟩ 100) past table ∧
      past.map (fun moment => moment.1.scrollOffset) = [0, 0, 0, 3, 2, 0, 2] ∧
      table.scrollOffset = 1 ∧ table.rows.length = 4 ∧ 0 < table.viewportHeight ∧ table.Windowed := by
  have reach : Reach moveWindow? (.start ⟨0, 0⟩ 100) _ _ :=
    .of_trail [
      .snapshot [.plain "a" .waiting 0, .plain "b" .waiting 0, .plain "c" .waiting 0,
        .plain "d" .waiting 0, .plain "e" .waiting 0] ⟨0, 0⟩,
      .viewport 80 2, .bottom,
      .snapshot [.plain "b" .waiting 0, .plain "c" .waiting 0, .plain "d" .waiting 0,
        .plain "e" .waiting 0] ⟨10, 10⟩,
      .pageUp, .scroll 9, .viewport 80 3] rfl
  exact ⟨_, _, reach, by decide, by decide, by decide, by decide, window_kept reach⟩

end SessionBoard.TableState
