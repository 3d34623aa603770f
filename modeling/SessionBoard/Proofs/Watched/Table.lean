import Mathlib.Logic.Function.Basic
import SessionBoard.Proofs.Table.Bounds
import SessionBoard.Proofs.Table.Displays
import SessionBoard.Proofs.Table.Spans
import SessionBoard.Proofs.Watched.Uptime

namespace SessionBoard.Watched

open SessionBoard.Text
open Column (gap minHostWidth)

/-- The items with another one at an index. -/
def put {α : Type} (items : List α) (index : Nat) (item : α) : Checked (List α) := do
  let _ ← Checked.get items index
  return items.set index item

/-- The text of a column whose width follows its content. -/
def textOf (row : SessionRow) : (column : Nat) → String
  | 0 => row.record.id.text
  | 1 => row.record.protocol
  | _ => row.record.origin

def content (rows : List SessionRow) (column cap : Nat) : Checked Nat := do
  let title ← Checked.get Column.titles column
  return Column.contentWidth title (rows.map (textOf · column)) cap

def hostColumn : Nat := 3

def layout (rows : List SessionRow) (total : Nat) : Checked ColumnLayout := do
  let widths := [← content rows 0 Column.maxIdWidth, ← content rows 1 Column.maxProtocolWidth,
    Column.stateWidth, 0, ← content rows 4 Column.maxOriginWidth, Column.uptimeWidth]
  let gaps ← Checked.sub widths.length 1
  let fixed := widths.foldl (· + ·) 0 + gap * gaps
  let widths ← put widths hostColumn (max (total - fixed) minHostWidth)
  return .ofWidths widths

theorem layout_eq (rows : List SessionRow) (total : Nat) : layout rows total = .ok (.ofRows rows total) := by
  have id : content rows 0 Column.maxIdWidth = .ok (Column.contentWidth "ID" _ Column.maxIdWidth) := rfl
  have protocol : content rows 1 Column.maxProtocolWidth =
    .ok (Column.contentWidth "Type" _ Column.maxProtocolWidth) := rfl
  have origin : content rows 4 Column.maxOriginWidth =
    .ok (Column.contentWidth "From" _ Column.maxOriginWidth) := rfl
  have fixed (a b c : Nat) :
      [a, b, Column.stateWidth, 0, c, Column.uptimeWidth].foldl (· + ·) 0 + gap * 5 =
        a + b + Column.stateWidth + c + Column.uptimeWidth + gap * 5 := by
    simp only [List.foldl_cons, List.foldl_nil]
    omega
  rw [layout, id, protocol, origin, Checked.ok_bind, Checked.ok_bind, Checked.ok_bind, ColumnLayout.ofRows,
    ← fixed]
  rfl

/-- The first of some columns that ends past `x`. -/
def find? (layout : ColumnLayout) (x : Nat) : (columns : List Nat) → Checked (Option (Nat × Nat))
  | [] => .ok none
  | column :: columns => do
    let start ← Checked.get layout.starts column
    let width ← Checked.get layout.widths column
    if x < start + width then return some (column, x - start) else find? layout x columns

def columnAt (layout : ColumnLayout) (x : Nat) : Checked (Nat × Nat) := do
  match ← find? layout x (List.range layout.widths.length) with
  | some found => return found
  | none =>
    let last ← Checked.sub layout.widths.length 1
    let start ← Checked.get layout.starts last
    return (last, ← Checked.sub x start)

theorem find?_eq {layout : ColumnLayout} (sizes : layout.starts.length = layout.widths.length) (x : Nat)
    {column count : Nat} (whole : column + count = layout.widths.length) :
    find? layout x (List.range' column count) =
      .ok (ColumnLayout.find? x column ((layout.starts.zip layout.widths).drop column)) := by
  induction count generalizing column with
  | zero =>
    rw [List.drop_eq_nil_of_le (by rw [List.length_zip]; omega)]
    rfl
  | succ count ih =>
    have before : column < layout.starts.length := by omega
    have within : column < layout.widths.length := by omega
    have start := Checked.get_eq_ok.mpr (List.getElem?_eq_getElem before)
    have width := Checked.get_eq_ok.mpr (List.getElem?_eq_getElem within)
    rw [List.range'_succ, find?, start, Checked.ok_bind, width, Checked.ok_bind,
      List.drop_eq_getElem_cons (by rw [List.length_zip]; omega), List.getElem_zip, ColumnLayout.find?,
      ih (by omega)]
    split <;> rfl

theorem columnAt_eq {layout : ColumnLayout} (sizes : layout.starts.length = layout.widths.length) (x : Nat) :
    columnAt layout x = layout.columnAt x := by
  rw [columnAt, List.range_eq_range', find?_eq sizes x (Nat.zero_add _), List.drop_zero, Checked.ok_bind,
    ColumnLayout.columnAt]
  cases ColumnLayout.find? x 0 (layout.starts.zip layout.widths) <;> rfl

variable (table : TableState)

def pointOn (row : SessionRow) (x : Nat) : Checked CellPoint := do
  let (column, distance) ← columnAt (← layout table.rows table.width) x
  let cell ← Checked.get row.cells column
  return ⟨column, charIndexAt cell distance⟩

theorem pointOn_eq (row : SessionRow) (x : Nat) : pointOn table row x = table.pointOn row x := by
  rw [pointOn, layout_eq, Checked.ok_bind, columnAt_eq (ColumnLayout.length_startsFrom 0 _)]
  rfl

def hitTest (line x : Nat) : Checked (Option (SessionId × CellPoint)) := do
  match (← table.visibleRows)[line]? with
  | none => return none
  | some row => return some (row.key, ← pointOn table row x)

theorem hitTest_eq (line x : Nat) : hitTest table line x = table.hitTest line x := by
  have pointed : pointOn table = table.pointOn := funext fun row => funext (pointOn_eq table row)
  rw [hitTest, pointed]
  rfl

def pointOnSelectedRow (x : Nat) : Checked (Option CellPoint) :=
  match table.selectedRow? with
  | some row => some <$> pointOn table row x
  | none => .ok none

theorem pointOnSelectedRow_eq (x : Nat) : pointOnSelectedRow table x = table.pointOnSelectedRow x := by
  have pointed : pointOn table = table.pointOn := funext fun row => funext (pointOn_eq table row)
  rw [pointOnSelectedRow, pointed]
  rfl

def bodyLineAt (screen : Screen) (y : Nat) : Checked (Option Nat) :=
  if screen.body.y ≤ y ∧ y < screen.body.bottom then some <$> Checked.sub y screen.body.y else .ok none

theorem bodyLineAt_eq (screen : Screen) (y : Nat) : bodyLineAt screen y = .ok (screen.bodyLineAt y) := by
  rw [bodyLineAt, Screen.bodyLineAt]
  split
  next within =>
    rw [Checked.sub, if_pos within.1]
    rfl
  · rfl

def onPress (screen : Screen) (x y : Nat) : Checked TableState := do
  let hit ←
    match ← bodyLineAt screen y with
    | some line => hitTest table line x
    | none => pure none
  match hit with
  | some (key, point) => return { table with selection := .start key point }
  | none => return { table with selection := .cleared }

theorem onPress_eq (screen : Screen) (x y : Nat) : onPress table screen x y = table.onPress screen x y := by
  have hits : hitTest table = table.hitTest := funext fun line => funext (hitTest_eq table line)
  rw [onPress, bodyLineAt_eq, hits]
  rfl

def onDrag (x : Nat) : Checked TableState := do
  if !table.selection.selecting then return table
  match ← pointOnSelectedRow table x with
  | some point => return { table with selection := table.selection.extend point }
  | none => return table

theorem onDrag_eq (x : Nat) : onDrag table x = table.onDrag x := by
  rw [onDrag, pointOnSelectedRow_eq]
  rfl

def onMouse (screen : Screen) (mouse : MouseEvent) : Checked (TableState × Option Effect) :=
  match mouse.action with
  | .scrollUp => .ok (table.scrollBy (-TableState.wheelLines), none)
  | .scrollDown => .ok (table.scrollBy TableState.wheelLines, none)
  | .down .left => do return (← onPress table screen mouse.x mouse.y, none)
  | .drag .left => do return (← onDrag table mouse.x, none)
  | .up .left => table.onRelease
  | .down _ | .drag _ | .up _ | .moved | .scrollLeft | .scrollRight => .ok (table, none)

theorem onMouse_eq (screen : Screen) (mouse : MouseEvent) :
    onMouse table screen mouse = table.onMouse screen mouse := by
  rw [onMouse, onPress_eq, onDrag_eq]
  rfl

/-- Where the sessions that wait for a row occur last in a snapshot. -/
abbrev Pending := SessionId → Option Nat

def index (snapshot : Snapshot) : Pending :=
  snapshot.zipIdx.foldl (fun pending (record, place) => Function.update pending record.id (some place))
    fun _ => none

/-- The places kept for the sessions that are not taken are those of their last records. -/
def Waits (snapshot : Snapshot) (taken : List SessionId) (pending : Pending) : Prop :=
  ∀ id, (pending id).map (snapshot[·]?) = (if id ∈ taken then none else lastRecord? snapshot id).map some

theorem lastRecord?_concat (snapshot : Snapshot) (record : SessionRecord) (id : SessionId) :
    lastRecord? (snapshot ++ [record]) id = if record.id = id then some record else lastRecord? snapshot id := by
  rw [lastRecord?, List.reverse_concat, List.find?_cons, lastRecord?]
  split <;> simp_all

theorem waits_index (snapshot : Snapshot) : Waits snapshot [] (index snapshot) := by
  induction snapshot using List.reverseRecOn with
  | nil => exact fun _ => rfl
  | append_singleton snapshot record ih =>
    intro id
    have earlier := ih id
    rw [index, List.zipIdx_append, List.foldl_append, ← index]
    simp only [List.not_mem_nil, if_false, lastRecord?_concat] at earlier ⊢
    by_cases same : record.id = id
    · simp [same]
    · rw [if_neg same, ← earlier]
      simp only [List.zipIdx_singleton, List.foldl_cons, List.foldl_nil]
      rw [Function.update_of_ne (Ne.symm same)]
      cases there : index snapshot id with
      | none => rfl
      | some place =>
        rw [there] at earlier
        obtain ⟨last, -, inside⟩ := Option.map_eq_some_iff.mp earlier.symm
        obtain ⟨within, -⟩ := List.getElem?_eq_some_iff.mp inside.symm
        rw [Option.map_some, Option.map_some, List.getElem?_append_left within]

theorem waits_update {snapshot : Snapshot} {taken : List SessionId} {pending : Pending}
    (waits : Waits snapshot taken pending) (id : SessionId) :
    Waits snapshot (id :: taken) (Function.update pending id none) := by
  intro other
  by_cases same : other = id
  · simp [same]
  · simp only [Function.update_of_ne same, List.mem_cons, same, false_or]
    exact waits other

variable {limit : Nat} {context : RowContext} {rows : List SessionRow} {records : List SessionRecord}
  {snapshot : Snapshot} {taken : List SessionId} {pending : Pending}

/-- Rows that are built or refreshed leave as much room as there was. -/
theorem room_onward {later : RowContext} (room : context.now.instant + context.tick ≤ limit)
    (onward : context.Onward later) : later.now.instant + later.tick ≤ limit := by
  rwa [onward.now, onward.tick]

theorem onward_update (row : SessionRow) (record : SessionRecord) (context : RowContext) :
    context.Onward (row.update record context).2 := by
  rw [SessionRow.update]
  split
  · exact .refl context
  · exact ⟨rfl, rfl, Nat.le_succ _⟩

theorem onward_keep (snapshot : Snapshot) (rows : List SessionRow) (taken : List SessionId)
    (context : RowContext) : context.Onward (SessionRow.kind.keep snapshot rows taken context).2.2 := by
  induction rows generalizing taken context with
  | nil => exact .refl context
  | cons row rows ih =>
    unfold RowKind.keep
    split
    next record _ => exact (onward_update row record context).trans _ _ _ (ih _ _)
    · exact ih _ _

def keep (limit : Nat) (snapshot : Snapshot) : List SessionRow → Pending → RowContext →
    Checked ((List SessionRow × List RowOp) × Pending × RowContext)
  | [], pending, context => .ok (([], []), pending, context)
  | row :: rows, pending, context =>
    match pending row.key with
    | some place => do
      let ((row', changed), context) ← updateRow limit row (← Checked.get snapshot place) context
      let ((kept, ops), rest) ← keep limit snapshot rows (Function.update pending row.key none) context
      return ((row' :: kept, .update row'.key changed :: ops), rest)
    | none => do
      let ((kept, ops), rest) ← keep limit snapshot rows pending context
      return ((kept, .remove row.key :: ops), rest)

theorem keep_eq (rows : List SessionRow) (room : context.now.instant + context.tick ≤ limit)
    (waits : Waits snapshot taken pending) :
    ∃ rest, keep limit snapshot rows pending context =
        .ok ((SessionRow.kind.keep snapshot rows taken context).1, rest,
          (SessionRow.kind.keep snapshot rows taken context).2.2) ∧
      Waits snapshot (SessionRow.kind.keep snapshot rows taken context).2.1 rest := by
  induction rows generalizing taken pending context with
  | nil => exact ⟨pending, rfl, waits⟩
  | cons row rows ih =>
    have found : (pending row.key).map (snapshot[·]?) =
      (if SessionRow.kind.key row ∈ taken then none else lastRecord? snapshot (SessionRow.kind.key row)).map
        some := waits row.key
    rw [keep, RowKind.keep]
    cases there : pending row.key with
    | none =>
      rw [there] at found
      obtain ⟨rest, kept, still⟩ := ih room waits
      rw [Option.map_eq_none_iff.mp found.symm]
      refine ⟨rest, ?_, still⟩
      simp only [kept, Checked.ok_bind]
      rfl
    | some place =>
      rw [there] at found
      obtain ⟨record, last, inside⟩ := Option.map_eq_some_iff.mp found.symm
      obtain ⟨rest, kept, still⟩ :=
        ih (room_onward room (onward_update row record context)) (waits_update waits row.key)
      rw [last]
      refine ⟨rest, ?_, still⟩
      simp only [Checked.get_eq_ok.mpr inside.symm, updateRow_eq room, kept, Checked.ok_bind]
      rfl

def appendNew (limit : Nat) (snapshot : Snapshot) : List SessionRecord → Pending → RowContext →
    Checked ((List SessionRow × List RowOp) × RowContext)
  | [], _, context => .ok (([], []), context)
  | record :: records, pending, context =>
    match pending record.id with
    | some place => do
      let (row, context) ← createRow limit (← Checked.get snapshot place) context
      let ((rows, ops), context) ←
        appendNew limit snapshot records (Function.update pending record.id none) context
      return ((row :: rows, .append row.key :: ops), context)
    | none => appendNew limit snapshot records pending context

theorem appendNew_eq (room : context.now.instant + context.tick ≤ limit)
    (waits : Waits snapshot taken pending) :
    appendNew limit snapshot records pending context =
      .ok (SessionRow.kind.appendNew snapshot records taken context) := by
  induction records generalizing taken pending context with
  | nil => rfl
  | cons record records ih =>
    have found := waits record.id
    rw [appendNew, RowKind.appendNew]
    cases there : pending record.id with
    | none =>
      rw [there] at found
      rw [Option.map_eq_none_iff.mp found.symm]
      exact ih room waits
    | some place =>
      rw [there] at found
      obtain ⟨last, same, inside⟩ := Option.map_eq_some_iff.mp found.symm
      rw [same]
      have onward : context.Onward (SessionRow.create last context).2 := ⟨rfl, rfl, Nat.le_succ _⟩
      have later := ih (room_onward room onward) (waits_update waits record.id)
      simp only [Checked.get_eq_ok.mpr inside.symm, createRow_eq room, later, Checked.ok_bind]
      rfl

def reconcile (limit : Nat) (rows : List SessionRow) (snapshot : Snapshot) (context : RowContext) :
    Checked ((List SessionRow × ReconcileReport) × RowContext) := do
  let ((kept, updates), pending, context) ← keep limit snapshot rows (index snapshot) context
  let ((new, appends), context) ← appendNew limit snapshot snapshot pending context
  return ((kept ++ new, updates ++ appends), context)

theorem reconcile_eq (room : context.now.instant + context.tick ≤ limit) (rows : List SessionRow)
    (snapshot : Snapshot) :
    reconcile limit rows snapshot context = .ok (SessionRow.kind.reconcile rows snapshot context) := by
  obtain ⟨rest, kept, still⟩ := keep_eq rows room (waits_index snapshot)
  have room := room_onward room (onward_keep snapshot rows [] context)
  simp only [reconcile, kept, appendNew_eq room still, Checked.ok_bind]
  rfl

def applySnapshot (limit : Nat) (snapshot : Snapshot) (now : Clock) :
    Checked (TableState × ReconcileReport) := do
  let ((rows, report), context) ← reconcile limit table.rows snapshot { table.context with now := now }
  let selection :=
    match table.selection.rowKey with
    | some key => if key ∈ report.removed then .cleared else table.selection
    | none => table.selection
  return ({ table with rows := rows, context := context, selection := selection }.clampScroll, report)

theorem applySnapshot_eq {now : Clock} (room : now.instant + table.context.tick ≤ limit)
    (snapshot : Snapshot) :
    applySnapshot table limit snapshot now = .ok (table.applySnapshot snapshot now) := by
  have inTime : (RowContext.now { table.context with now := now }).instant + table.context.tick ≤ limit := room
  rw [applySnapshot, reconcile_eq inTime]
  rfl

def tickRows (limit : Nat) (now : Clock) : List SessionRow → Selection →
    Checked ((List SessionRow × Selection) × Bool)
  | [], selection => .ok (([], selection), false)
  | row :: rows, selection => do
    let (uptime, changed) ← poll limit row.uptime now
    let visible := changed.any (!·.isEmpty)
    let selection :=
      if visible then (selection.reassert row.key Column.uptime uptime.text.length).1
      else selection
    let ((rows, selection), more) ← tickRows limit now rows selection
    return (({ row with uptime := uptime } :: rows, selection), visible || more)

theorem tickRows_eq {now : Clock} (room : ∀ row ∈ rows, now.instant + row.uptime.interval ≤ limit)
    (selection : Selection) :
    tickRows limit now rows selection = .ok (TableState.tickRows now rows selection) := by
  induction rows generalizing selection with
  | nil => rfl
  | cons row rows ih =>
    obtain ⟨first, others⟩ := List.forall_mem_cons.mp room
    simp only [tickRows, poll_eq first, ih others, Checked.ok_bind]
    rfl

def tick (limit : Nat) (now : Clock) : Checked (TableState × Bool) := do
  let ((rows, selection), changed) ← tickRows limit now table.rows table.selection
  return ({ table with rows := rows, selection := selection }, changed)

theorem tick_eq {now : Clock} (room : ∀ row ∈ table.rows, now.instant + row.uptime.interval ≤ limit) :
    tick table limit now = .ok (table.tick now) := by
  rw [tick, tickRows_eq room]
  rfl

/-- Goes through items that each have a place in a list of the same length. -/
theorem mapM_zipIdx_eq {α β γ : Type} (others : List β) (f : α → Nat → β → γ) (items : List α) (first : Nat)
    (within : first + items.length ≤ others.length) :
    (items.zipIdx first).mapM (fun item => do return f item.1 item.2 (← Checked.get others item.2)) =
      .ok (((items.zip (others.drop first)).zipIdx first).map fun item => f item.1.1 item.2 item.1.2) := by
  induction items generalizing first with
  | nil => rfl
  | cons item items ih =>
    rw [List.length_cons] at within
    have other := Checked.get_eq_ok.mpr (List.getElem?_eq_getElem (show first < others.length by omega))
    rw [List.zipIdx_cons, List.mapM_cons, other, ih (first + 1) (by omega),
      List.drop_eq_getElem_cons (show first < others.length by omega), List.zip_cons_cons, List.zipIdx_cons]
    rfl

def titleSpans : Checked (List Span) := do
  let columns ← layout table.rows table.width
  let cells ← Column.titles.zipIdx.mapM fun (title, column) => do
    return [⟨fit title.toList (← Checked.get columns.widths column), { bold := true }⟩]
  return gapped cells

theorem titleSpans_eq : titleSpans table = .ok table.titleSpans := by
  have cells := mapM_zipIdx_eq table.layout.widths
    (fun title _ width => [({ text := fit title.toList width, style := { bold := true } } : Span)])
    Column.titles 0 (Nat.le_refl 6)
  rw [titleSpans, layout_eq, Checked.ok_bind]
  refine (congrArg (· >>= _) cells).trans ?_
  rw [Checked.ok_bind, List.drop_zero, TableState.titleSpans]
  conv_rhs => rw [← List.zipIdx_map_fst 0 (Column.titles.zip table.layout.widths), List.map_map]
  rfl

def rowSpans (columns : ColumnLayout) (row : SessionRow) : Checked (List Span) := do
  let cells ← row.cells.zipIdx.mapM fun (cell, column) => do
    return table.rowCellSpans row column cell (← Checked.get columns.widths column)
  return gapped cells

theorem rowSpans_eq (row : SessionRow) : rowSpans table table.layout row = .ok (table.rowSpans row) := by
  have cells := mapM_zipIdx_eq table.layout.widths (fun cell column => table.rowCellSpans row column cell)
    row.cells 0 (Nat.le_refl 6)
  rw [rowSpans, table.rowSpans_eq, TableState.cellsOf]
  exact congrArg (· >>= _) cells

def draw (width height : Nat) : Checked (List (List Cell)) := do
  let columns ← layout table.rows table.width
  let rows ← table.visibleRows
  let lines ← rows.mapM (rowSpans table columns)
  return fillArea width height (lines.map (drawSpans width))

theorem draw_eq (width height : Nat) : draw table width height = table.draw width height := by
  have lines (rows : List SessionRow) :
      rows.mapM (rowSpans table table.layout) = .ok (rows.map table.rowSpans) :=
    Checked.mapM_eq_ok fun row _ => rowSpans_eq table row
  rw [draw, layout_eq, Checked.ok_bind, table.visibleRows_eq, Checked.ok_bind, table.draw_eq]
  refine (congrArg (· >>= _) (lines _)).trans ?_
  rw [Checked.ok_bind, List.map_map]
  rfl

end SessionBoard.Watched
