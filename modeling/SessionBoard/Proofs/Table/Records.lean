import SessionBoard.Proofs.Table.Reconciled
import SessionBoard.Proofs.Table.Upkeep

namespace SessionBoard

namespace SessionRow

variable {rows : List SessionRow} {snapshot : Snapshot} {context : RowContext} {row : SessionRow}

theorem record_update (row : SessionRow) (record : SessionRecord) (context : RowContext) :
    (row.update record context).1.1.record = record := by
  unfold update
  dsimp only
  split <;> rfl

theorem records_updated (rows : List SessionRow) (snapshot : Snapshot) (context : RowContext) :
    ((inTurn (fun item => kind.update item.1 item.2) (kind.survivors rows snapshot) context).1.map
        Prod.fst).map SessionRow.record = (kind.survivors rows snapshot).map Prod.snd := by
  rw [List.map_map]
  exact map_inTurn (fun item _ context => item.1.record_update item.2 context) context

theorem records_created (records : List SessionRecord) (context : RowContext) :
    (inTurn kind.create records context).1.map SessionRow.record = records := by
  have same : ∀ record ∈ records, ∀ context, SessionRow.record (kind.create record context).1 = record :=
    fun _ _ _ => rfl
  exact (map_inTurn same context).trans (List.map_id' records)

/-- The keys of the rows that stay, and then the ids that no row had; and every row bears the last record
of its session. -/
theorem reconcile_rows (rows : List SessionRow) (snapshot : Snapshot) (context : RowContext) :
    (kind.reconcile rows snapshot context).1.1.map SessionRow.key =
        ((rows.map SessionRow.key).filter (· ∈ idsOf snapshot)).eraseDups ++
          ((idsOf snapshot).filter (· ∉ rows.map SessionRow.key)).eraseDups ∧
      (kind.reconcile rows snapshot context).1.1.map SessionRow.record =
        (kind.survivors rows snapshot).map Prod.snd ++
          RowKind.arrivals snapshot snapshot (rows.map SessionRow.key) := by
  have keptKeys := kind.map_key_updated kind_keyed rows snapshot context
  have kept := records_updated rows snapshot context
  cases first : inTurn (fun item => kind.update item.1 item.2) (kind.survivors rows snapshot) context
    with | mk updated between
  have newKeys := kind.map_key_created kind_keyed snapshot (rows.map SessionRow.key) between
  have new := records_created (RowKind.arrivals snapshot snapshot (rows.map SessionRow.key)) between
  cases second : inTurn kind.create (RowKind.arrivals snapshot snapshot (rows.map SessionRow.key)) between
    with | mk created last
  rw [first] at keptKeys kept
  rw [second] at newKeys new
  rw [kind.reconcile_eq rows snapshot context first second]
  exact ⟨List.map_append.trans (congrArg₂ (· ++ ·) keptKeys newKeys),
    List.map_append.trans (congrArg₂ (· ++ ·) kept new)⟩

theorem last_reconcile (member : row ∈ (kind.reconcile rows snapshot context).1.1) :
    IsLast snapshot row.key row.record := by
  have recorded := List.mem_map_of_mem (f := SessionRow.record) member
  rw [(reconcile_rows rows snapshot context).2, List.mem_append] at recorded
  rcases recorded with stays | new
  · obtain ⟨item, survives, same⟩ := List.mem_map.mp stays
    have last := kind.survivors_last rows snapshot item survives
    rw [← last.1, same] at last
    exact last
  · exact RowKind.arrivals_last snapshot _ row.record new

end SessionRow

theorem IsLast.mem {snapshot : Snapshot} {id : SessionId} {record : SessionRecord}
    (last : IsLast snapshot id record) : record ∈ snapshot := by
  obtain ⟨_, before, after, rfl, _⟩ := last
  simp

namespace TableState

variable {table table' : TableState} {snapshot : Snapshot}

def records (table : TableState) : List SessionRecord :=
  table.rows.map SessionRow.record

/-- There is one row for each session of a snapshot, and it bears the last record of the session. A snapshot
brings this about, and nothing else that happens to the table changes it. -/
structure Lists (table : TableState) (snapshot : Snapshot) : Prop where
  keys_nodup : (table.rows.map SessionRow.key).Nodup
  mem_keys_iff : ∀ id, id ∈ table.rows.map SessionRow.key ↔ id ∈ idsOf snapshot
  last : ∀ row ∈ table.rows, IsLast snapshot row.key row.record

theorem lists_start (now : Clock) (tick : Nat) : (start now tick).Lists [] :=
  ⟨.nil, fun _ => .rfl, by simp [start]⟩

/-- Sessions that go on are listed first, and those that are new after them. -/
theorem map_key_applySnapshot (table : TableState) (snapshot : Snapshot) (now : Clock) :
    (table.applySnapshot snapshot now).1.rows.map SessionRow.key =
      ((table.rows.map SessionRow.key).filter (· ∈ idsOf snapshot)).eraseDups ++
        ((idsOf snapshot).filter (· ∉ table.rows.map SessionRow.key)).eraseDups :=
  (SessionRow.reconcile_rows table.rows snapshot { table.context with now := now }).1

/-- It does not matter which sessions the table listed before. -/
theorem lists_applySnapshot (table : TableState) (snapshot : Snapshot) (now : Clock) :
    (table.applySnapshot snapshot now).1.Lists snapshot := by
  refine ⟨?_, fun id => ?_, fun row member => SessionRow.last_reconcile member⟩
  · rw [map_key_applySnapshot]
    exact RowKind.nodup_keys _ _
  · rw [map_key_applySnapshot]
    exact RowKind.mem_keys _ _ id

theorem map_key_rows (table : TableState) : table.rows.map SessionRow.key = idsOf table.records := by
  rw [records, idsOf, List.map_map]
  rfl

/-- What a table lists is told by its records. -/
theorem Lists.of_records (lists : table.Lists snapshot) (same : table'.records = table.records) :
    table'.Lists snapshot where
  keys_nodup := by
    rw [map_key_rows, same, ← map_key_rows]
    exact lists.keys_nodup
  mem_keys_iff := by
    rw [map_key_rows, same, ← map_key_rows]
    exact lists.mem_keys_iff
  last := by
    have last : ∀ record ∈ table'.records, IsLast snapshot record.id record := by
      rw [same, records, List.forall_mem_map]
      exact lists.last
    exact List.forall_mem_map.mp last

/-- Where a snapshot repeats no id the table bears its records and no others. -/
theorem Lists.records_perm (lists : table.Lists snapshot) (distinct : (idsOf snapshot).Nodup) :
    table.records.Perm snapshot := by
  have once : table.records.Nodup := by
    have keys := lists.keys_nodup
    rw [map_key_rows] at keys
    exact keys.of_map
  -- Neither list repeats anything, so it is enough that they have the same members.
  refine (List.perm_ext_iff_of_nodup once distinct.of_map).mpr fun record => ⟨?_, ?_⟩
  · intro member
    obtain ⟨row, ofTable, rfl⟩ := List.mem_map.mp member
    exact (lists.last row ofTable).mem
  · intro member
    obtain ⟨row, ofTable, same⟩ :=
      List.mem_map.mp ((lists.mem_keys_iff record.id).mpr (List.mem_map_of_mem member))
    rw [← List.inj_on_of_nodup_map distinct (lists.last row ofTable).mem member same]
    exact List.mem_map_of_mem ofTable

theorem records_tick (table : TableState) (now : Clock) : (table.tick now).1.records = table.records := by
  rw [records, rows_tick, List.map_map]
  rfl

theorem map_key_tick (table : TableState) (now : Clock) :
    (table.tick now).1.rows.map SessionRow.key = table.rows.map SessionRow.key := by
  rw [map_key_rows, records_tick, map_key_rows]

theorem records_onKey {key : Key} (answered : table.onKey key = some table') :
    table'.records = table.records := by
  obtain ⟨offset, rfl⟩ := onKey_eq answered
  rfl

theorem records_onMouse {screen : Screen} {mouse : MouseEvent} {effect : Option Effect}
    (moved : table.onMouse screen mouse = .ok (table', effect)) : table'.records = table.records := by
  rcases onMouse_eq moved with ⟨delta, rfl⟩ | rfl | ⟨_, selection, _, rfl⟩ <;> rfl

end TableState

end SessionBoard
