import SessionBoard.Proofs.Table.Records

namespace SessionBoard

/-- A session with no more to tell than its name, its state and its start. -/
def SessionRecord.plain (name : String) (state : SessionState) (startedAt : Int) : SessionRecord :=
  { id := ⟨name⟩, protocol := "", state, host := "", origin := "", startedAt }

/-- Rows are built and refreshed from the second context after they were from the first one. -/
structure RowContext.Onward (first last : RowContext) : Prop where
  now : last.now = first.now
  tick : last.tick = first.tick
  generation : first.nextGeneration ≤ last.nextGeneration

theorem RowContext.Onward.refl (context : RowContext) : context.Onward context :=
  ⟨rfl, rfl, Nat.le_refl _⟩

theorem RowContext.Onward.trans (first middle last : RowContext) (before : first.Onward middle)
    (after : middle.Onward last) : first.Onward last :=
  ⟨after.now.trans before.now, after.tick.trans before.tick,
    Nat.le_trans before.generation after.generation⟩

namespace SessionRow

open RowKind (arrivals)

variable {rows : List SessionRow} {snapshot : Snapshot} {context : RowContext} {row : SessionRow}
  {record : SessionRecord}

/-- The display that a session keeps: that of its row, if it counts from the same start. -/
def carried? (old : Option SessionRow) (record : SessionRecord) : Option LiveTime :=
  (old.map SessionRow.uptime).filter (·.startedAt = record.startedAt)

theorem carried?_eq_some {old : Option SessionRow} {display : LiveTime} :
    carried? old record = some display ↔
      ∃ row, old = some row ∧ row.uptime = display ∧ row.uptime.startedAt = record.startedAt := by
  cases old with
  | none => simp [carried?]
  | some row => simp only [carried?, Option.map_some, Option.filter_eq_some_iff]; grind

/-- The row that a session gets which had this row, or none. -/
def furnish (item : Option SessionRow × SessionRecord) (context : RowContext) : SessionRow × RowContext :=
  match carried? item.1 item.2 with
  | some display => (⟨item.2, display⟩, context)
  | none => create item.2 context

/-- What a snapshot brings: the sessions whose rows stay, and then those that had none. -/
def brought (rows : List SessionRow) (snapshot : Snapshot) : List (Option SessionRow × SessionRecord) :=
  (kind.survivors rows snapshot).map (fun item => (some item.1, item.2)) ++
    (arrivals snapshot snapshot (rows.map SessionRow.key)).map (none, ·)

theorem of_mem_brought {old : SessionRow} (member : (some old, record) ∈ brought rows snapshot) :
    old ∈ rows ∧ IsLast snapshot old.key record := by
  rcases List.mem_append.mp member with stays | comes
  · obtain ⟨item, survives, same⟩ := List.mem_map.mp stays
    cases same
    exact ⟨kind.mem_of_mem_survivors survives, kind.survivors_last rows snapshot _ survives⟩
  · obtain ⟨_, _, same⟩ := List.mem_map.mp comes
    cases same

/-- Where no session has two rows, the row of a session that the snapshot has is brought. -/
theorem mem_brought (distinct : (rows.map SessionRow.key).Nodup) (member : row ∈ rows)
    (last : IsLast snapshot row.key record) : (some row, record) ∈ brought rows snapshot :=
  List.mem_append_left _ <| List.mem_map_of_mem (f := fun item => (some item.1, item.2)) <|
    kind.mem_survivors_of_nodup distinct member (lastRecord?_eq_some.mpr last)

theorem mem_brought_new (last : IsLast snapshot record.id record)
    (absent : record.id ∉ rows.map SessionRow.key) : (none, record) ∈ brought rows snapshot :=
  List.mem_append_right _ (List.mem_map_of_mem (RowKind.mem_arrivals.mpr ⟨last, absent⟩))

theorem furnish_update (item : SessionRow × SessionRecord) (context : RowContext) :
    furnish (some item.1, item.2) context =
      ((kind.update item.1 item.2 context).1.1, (kind.update item.1 item.2 context).2) := by
  obtain ⟨row, record⟩ := item
  by_cases same : row.uptime.startedAt = record.startedAt <;>
    simp [furnish, carried?, kind, update, create, Option.filter, same]

/-- After a snapshot the table has the rows of what it brings. -/
theorem furnished (rows : List SessionRow) (snapshot : Snapshot) (context : RowContext) :
    inTurn furnish (brought rows snapshot) context =
      ((kind.reconcile rows snapshot context).1.1, (kind.reconcile rows snapshot context).2) := by
  cases first : inTurn (fun item => kind.update item.1 item.2) (kind.survivors rows snapshot) context
    with | mk updated between
  cases second : inTurn kind.create (arrivals snapshot snapshot (rows.map kind.key)) between
    with | mk created last
  have stay := inTurn_congr furnish_update (kind.survivors rows snapshot) context
  have come : inTurn furnish ((arrivals snapshot snapshot (rows.map kind.key)).map (none, ·)) between =
      ((inTurn kind.create (arrivals snapshot snapshot (rows.map kind.key)) between).1.map id,
        (inTurn kind.create (arrivals snapshot snapshot (rows.map kind.key)) between).2) :=
    inTurn_congr (fun _ _ => rfl) _ between
  rw [first] at stay
  rw [second, List.map_id_fun] at come
  rw [kind.reconcile_eq rows snapshot context first second, brought, inTurn_append, stay]
  exact congrArg (fun new : List SessionRow × RowContext => (updated.map Prod.fst ++ new.1, new.2)) come

theorem record_furnish (item : Option SessionRow × SessionRecord) (context : RowContext) :
    (furnish item context).1.record = item.2 := by
  unfold furnish
  split <;> rfl

/-- A row with a display that is new: it was built just now, with the next generation. -/
def Renewed (first last : RowContext) (row : SessionRow) : Prop :=
  ∃ generation, first.nextGeneration ≤ generation ∧ generation < last.nextGeneration ∧
    row.uptime = .start row.record.startedAt generation first.tick first.now

theorem onward_furnish (item : Option SessionRow × SessionRecord) (context : RowContext) :
    context.Onward (furnish item context).2 := by
  unfold furnish
  split
  · exact .refl context
  · exact ⟨rfl, rfl, Nat.le_succ _⟩

theorem Renewed.widen {first between next last : RowContext} (renewed : Renewed between next row)
    (before : first.Onward between) (after : next.Onward last) : Renewed first last row := by
  obtain ⟨generation, least, most, same⟩ := renewed
  refine ⟨generation, Nat.le_trans before.generation least,
    Nat.lt_of_lt_of_le most after.generation, ?_⟩
  rw [same, before.now, before.tick]

theorem furnish_renewed {item : Option SessionRow × SessionRecord} (lost : carried? item.1 item.2 = none) :
    Renewed context (furnish item context).2 (furnish item context).1 := by
  simp only [furnish, lost]
  exact ⟨context.nextGeneration, Nat.le_refl _, Nat.lt_succ_self _, rfl⟩

/-- The row that a session gets which a snapshot brings. The session keeps its display as long as it stays on
the table with the same start; whatever else comes to be on the table gets a display that was never seen before.
-/
structure Furnished (first last : RowContext) (item : Option SessionRow × SessionRecord)
    (row : SessionRow) : Prop where
  record : row.record = item.2
  carried : ∀ display, carried? item.1 item.2 = some display → row.uptime = display
  renewed : carried? item.1 item.2 = none → Renewed first last row

theorem furnished_furnish {first last : RowContext} (item : Option SessionRow × SessionRecord)
    (before : first.Onward context) (after : (furnish item context).2.Onward last) :
    Furnished first last item (furnish item context).1 where
  record := record_furnish item context
  carried := by
    intro display carried
    simp only [furnish, carried]
  renewed := fun lost => (furnish_renewed lost).widen before after

/-- Each session that a snapshot brings gets its row, and there are no other rows. -/
theorem furnished_inTurn (items : List (Option SessionRow × SessionRecord)) (context : RowContext) :
    context.Onward (inTurn furnish items context).2 ∧
      (∀ item ∈ items, ∃ row ∈ (inTurn furnish items context).1,
        Furnished context (inTurn furnish items context).2 item row) ∧
      ∀ row ∈ (inTurn furnish items context).1, ∃ item ∈ items,
        Furnished context (inTurn furnish items context).2 item row := by
  obtain ⟨onward, acted, made⟩ := inTurn_between RowContext.Onward.refl RowContext.Onward.trans
    onward_furnish items context
  refine ⟨onward, ?_, ?_⟩
  · intro item member
    obtain ⟨between, before, after, done⟩ := acted item member
    exact ⟨_, done, furnished_furnish item before after⟩
  · rintro _ member
    obtain ⟨item, earlier, between, before, after, rfl⟩ := made _ member
    exact ⟨item, earlier, furnished_furnish item before after⟩

end SessionRow

namespace TableState

open SessionRow (Furnished furnish brought)

variable (table : TableState) (snapshot : Snapshot) (now : Clock)

theorem furnished_applySnapshot :
    inTurn furnish (brought table.rows snapshot) { table.context with now := now } =
      ((table.applySnapshot snapshot now).1.rows, (table.applySnapshot snapshot now).1.context) :=
  SessionRow.furnished ..

/-- A snapshot gives each session that it brings its row, and there are no other rows afterwards. -/
theorem displays_applySnapshot :
    RowContext.Onward { table.context with now := now } (table.applySnapshot snapshot now).1.context ∧
      (∀ item ∈ brought table.rows snapshot, ∃ row ∈ (table.applySnapshot snapshot now).1.rows,
        Furnished { table.context with now := now } (table.applySnapshot snapshot now).1.context item row) ∧
      ∀ row ∈ (table.applySnapshot snapshot now).1.rows, ∃ item ∈ brought table.rows snapshot,
        Furnished { table.context with now := now } (table.applySnapshot snapshot now).1.context item row := by
  have furnished := SessionRow.furnished_inTurn (brought table.rows snapshot) { table.context with now := now }
  rwa [furnished_applySnapshot] at furnished

end TableState

end SessionBoard
