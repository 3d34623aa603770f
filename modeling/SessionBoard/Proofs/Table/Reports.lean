import SessionBoard.Proofs.Table.Records

namespace SessionBoard

namespace RowKind

variable {ρ γ : Type} (kind : RowKind ρ γ) {rows : List ρ} {snapshot : Snapshot} {taken : List SessionId}
  {context : γ}

/-- The row shows the last record of its session, so that an update with it is no change. -/
def Current (snapshot : Snapshot) (row : ρ) : Prop :=
  ∃ record, lastRecord? snapshot (kind.key row) = some record ∧
    ∀ context, (kind.update row record context).1.2 = false

theorem ops_keep_of_current (keyed : kind.Keyed) (distinct : (rows.map kind.key).Nodup)
    (free : ∀ row ∈ rows, kind.key row ∉ taken) (current : ∀ row ∈ rows, kind.Current snapshot row) :
    (kind.keep snapshot rows taken context).1.2 = rows.map fun row => .update (kind.key row) false := by
  induction rows generalizing taken context with
  | nil => rfl
  | cons row rows ih =>
    obtain ⟨apart, distinct⟩ := List.nodup_cons.mp distinct
    obtain ⟨freeRow, freeRest⟩ := List.forall_mem_cons.mp free
    obtain ⟨⟨record, found, unchanged⟩, currentRest⟩ := List.forall_mem_cons.mp current
    have named := (lastRecord?_eq_some.mp found).1
    have key : kind.key (kind.update row record context).1.1 = kind.key row :=
      (keyed.key_update row record context named.symm).trans named
    have others : ∀ other ∈ rows, kind.key other ∉ kind.key row :: taken := by
      intro other member
      rw [List.mem_cons, not_or]
      exact ⟨fun same => apart (same ▸ List.mem_map_of_mem member), freeRest other member⟩
    rw [kind.keep_of_stays freeRow found, List.map_cons, key, unchanged, ih distinct others currentRest]

theorem arrivals_eq_nil (all : idsOf snapshot ⊆ taken) : arrivals snapshot snapshot taken = [] := by
  refine List.eq_nil_iff_forall_not_mem.mpr fun record member => ?_
  obtain ⟨last, free⟩ := mem_arrivals.mp member
  exact free (all (mem_idsOf (lastRecord?_eq_some.mpr last)))

/-- The second pass has nothing to do where every session of the snapshot has a row. -/
theorem reconcile_of_all (all : idsOf snapshot ⊆ rows.map kind.key) :
    (kind.reconcile rows snapshot context).1.2 = (kind.keep snapshot rows [] context).1.2 ∧
      (kind.reconcile rows snapshot context).2 =
        (inTurn (fun item => kind.update item.1 item.2) (kind.survivors rows snapshot) context).2 := by
  cases first : inTurn (fun item => kind.update item.1 item.2) (kind.survivors rows snapshot) context
    with | mk updated between
  have second : inTurn kind.create (arrivals snapshot snapshot (rows.map kind.key)) between =
      ([], between) := by
    rw [arrivals_eq_nil all, inTurn]
  rw [kind.reconcile_eq rows snapshot context first second]
  exact ⟨List.append_nil _, rfl⟩

end RowKind

namespace SessionRow

/-- The report of a reconciliation tells of every change to the records. -/
theorem records_of_isUnchanged {rows : List SessionRow} {snapshot : Snapshot} {context : RowContext}
    (unchanged : (kind.reconcile rows snapshot context).1.2.isUnchanged) :
    (kind.reconcile rows snapshot context).1.1.map SessionRow.record = rows.map SessionRow.record := by
  refine kind.map_reconcile_of_isUnchanged SessionRow.record (fun row _ record context same => ?_) unchanged
  have told : (row.update record context).1.2 = (row.record != record) := changed_update
  have shown : (row.update record context).1.1.record = record := row.record_update record context
  rw [show (kind.update row record context).1.2 = _ from told, bne_eq_false_iff_eq] at same
  exact shown.trans same.symm

end SessionRow

namespace TableState

open SessionRow (kind)

variable {table : TableState} {snapshot : Snapshot}

theorem Lists.current (lists : table.Lists snapshot) {row : SessionRow} (member : row ∈ table.rows) :
    kind.Current snapshot row := by
  refine ⟨row.record, lastRecord?_eq_some.mpr (lists.last row member), fun context => ?_⟩
  have told : (row.update row.record context).1.2 = (row.record != row.record) := SessionRow.changed_update
  rwa [bne_self_eq_false] at told

theorem Lists.subset_keys (lists : table.Lists snapshot) : idsOf snapshot ⊆ table.rows.map SessionRow.key :=
  fun id member => (lists.mem_keys_iff id).mpr member

/-- A snapshot that is listed already is reported row by row, without a change. -/
theorem Lists.report_eq (lists : table.Lists snapshot) (now : Clock) :
    (table.applySnapshot snapshot now).2 = table.rows.map fun row => .update row.key false := by
  refine (kind.reconcile_of_all lists.subset_keys).1.trans ?_
  exact kind.ops_keep_of_current SessionRow.kind_keyed lists.keys_nodup (fun _ _ => List.not_mem_nil)
    fun _ => lists.current

/-- No display is built for a snapshot that is listed already. -/
theorem Lists.context_eq (lists : table.Lists snapshot) (onTime : ∀ row ∈ table.rows, row.OnTime)
    (now : Clock) : (table.applySnapshot snapshot now).1.context = { table.context with now := now } := by
  refine (kind.reconcile_of_all lists.subset_keys).2.trans (snd_inTurn fun item member => ?_)
  obtain ⟨row, record⟩ := item
  have ofTable : row ∈ table.rows := kind.mem_of_mem_survivors member
  have last : lastRecord? snapshot row.key = some row.record :=
    lastRecord?_eq_some.mpr (lists.last row ofTable)
  obtain rfl : row.record = record := Option.some.inj (last.symm.trans (kind.mem_survivors member))
  have start : row.uptime.startedAt = row.record.startedAt := onTime row ofTable
  simp only [kind, SessionRow.update, start, if_true]

/-- Nothing but what the table lists already is reported as no change. -/
theorem isUnchanged_iff_lists (table : TableState) (snapshot : Snapshot) (now : Clock) :
    (table.applySnapshot snapshot now).2.isUnchanged ↔ table.Lists snapshot := by
  constructor
  · intro unchanged
    have same : (table.applySnapshot snapshot now).1.records = table.records :=
      SessionRow.records_of_isUnchanged unchanged
    exact (table.lists_applySnapshot snapshot now).of_records same.symm
  · intro lists
    rw [lists.report_eq now, ReconcileReport.isUnchanged, List.all_map]
    exact List.all_eq_true.mpr fun _ _ => rfl

/-- A snapshot that is applied once more, at whatever time, leaves everything as it is but the reading that
new displays would start from. Of any snapshot the report tells exactly whether the records have changed. -/
theorem applySnapshot_idempotent (table : TableState) (snapshot : Snapshot) :
    (∀ first second, (table.applySnapshot snapshot first).1.applySnapshot snapshot second =
      ({ (table.applySnapshot snapshot first).1 with
          context := { (table.applySnapshot snapshot first).1.context with now := second } },
        (table.applySnapshot snapshot first).1.rows.map fun row => .update row.key false)) ∧
    ∀ now, (table.applySnapshot snapshot now).2.isUnchanged ↔
      (table.applySnapshot snapshot now).1.records = table.records := by
  refine ⟨fun first second => ?_, fun now => ⟨SessionRow.records_of_isUnchanged, fun same => ?_⟩⟩
  · have lists := table.lists_applySnapshot snapshot first
    have kept := table.kept_applySnapshot snapshot first
    have unchanged := (isUnchanged_iff_lists _ snapshot second).mpr lists
    obtain ⟨context, same⟩ := applySnapshot_eq kept unchanged
    have built := lists.context_eq kept.onTime second
    rw [same] at built
    obtain rfl : context = _ := built
    exact Prod.ext same (lists.report_eq second)
  · have lists := table.lists_applySnapshot snapshot now
    exact (table.isUnchanged_iff_lists snapshot now).mpr (lists.of_records same.symm)

end TableState

end SessionBoard
