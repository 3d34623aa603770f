import SessionBoard.Table.Reconcile

namespace SessionBoard

theorem ReconcileReport.removed_eq_nil {report : ReconcileReport} (unchanged : report.isUnchanged) :
    report.removed = [] := by
  rw [isUnchanged, List.all_eq_true] at unchanged
  refine List.filterMap_eq_nil_iff.mpr fun op member => ?_
  have := unchanged op member
  cases op <;> simp_all

namespace RowKind

variable {ρ γ : Type} (kind : RowKind ρ γ) {snapshot records : Snapshot} {rows : List ρ}
  {taken : List SessionId} {context : γ}

section Rows

variable {holds : ρ → Prop}

theorem forall_keep (updated : ∀ row record context, holds (kind.update row record context).1.1)
    (snapshot : Snapshot) (rows : List ρ) (taken : List SessionId) (context : γ) :
    ∀ row ∈ (kind.keep snapshot rows taken context).1.1, holds row := by
  induction rows generalizing taken context with
  | nil => simp [keep]
  | cons first rows ih =>
    unfold keep
    split
    · exact List.forall_mem_cons.mpr ⟨updated _ _ _, ih _ _⟩
    · exact ih _ _

theorem forall_appendNew (created : ∀ record context, holds (kind.create record context).1)
    (snapshot records : Snapshot) (taken : List SessionId) (context : γ) :
    ∀ row ∈ (kind.appendNew snapshot records taken context).1.1, holds row := by
  induction records generalizing taken context with
  | nil => simp [appendNew]
  | cons first records ih =>
    unfold appendNew
    split
    · exact List.forall_mem_cons.mpr ⟨created _ _, ih _ _⟩
    · exact ih _ _

/-- What holds of every row as it is updated or created holds of all the rows afterwards. -/
theorem forall_reconcile (updated : ∀ row record context, holds (kind.update row record context).1.1)
    (created : ∀ record context, holds (kind.create record context).1) :
    ∀ row ∈ (kind.reconcile rows snapshot context).1.1, holds row := by
  intro row member
  rcases List.mem_append.mp member with early | late
  · exact kind.forall_keep updated snapshot rows [] context row early
  · exact kind.forall_appendNew created snapshot snapshot _ _ row late

end Rows

/-- Rows of which none is reported as changed are the same, as far as an update tells. -/
theorem map_keep_of_isUnchanged {δ : Type} (view : ρ → δ)
    (faithful : ∀ row ∈ rows, ∀ record context,
      (kind.update row record context).1.2 = false → view (kind.update row record context).1.1 = view row)
    (unchanged : ReconcileReport.isUnchanged (kind.keep snapshot rows taken context).1.2) :
    (kind.keep snapshot rows taken context).1.1.map view = rows.map view := by
  induction rows generalizing taken context with
  | nil => rfl
  | cons row rows ih =>
    unfold keep at unchanged ⊢
    split at unchanged
    · rename_i record _
      simp only [ReconcileReport.isUnchanged, List.all_cons, Bool.and_eq_true,
        Bool.not_eq_true'] at unchanged
      have first := faithful row (by simp) record context unchanged.1
      have rest := ih (fun other member => faithful other (by simp [member])) unchanged.2
      simp only [List.map_cons, first, rest]
    · simp [ReconcileReport.isUnchanged] at unchanged

/-- A new row is always reported. -/
theorem appendNew_eq_of_isUnchanged
    (unchanged : ReconcileReport.isUnchanged (kind.appendNew snapshot records taken context).1.2) :
    (kind.appendNew snapshot records taken context).1.1 = [] := by
  induction records generalizing taken context with
  | nil => rfl
  | cons record records ih =>
    unfold appendNew at unchanged ⊢
    split at unchanged
    · simp [ReconcileReport.isUnchanged] at unchanged
    · exact ih unchanged

/-- The report tells of every change to the rows that the updates tell of. -/
theorem map_reconcile_of_isUnchanged {δ : Type} (view : ρ → δ)
    (faithful : ∀ row ∈ rows, ∀ record context,
      (kind.update row record context).1.2 = false → view (kind.update row record context).1.1 = view row)
    (unchanged : (kind.reconcile rows snapshot context).1.2.isUnchanged) :
    (kind.reconcile rows snapshot context).1.1.map view = rows.map view := by
  simp only [reconcile, ReconcileReport.isUnchanged, List.all_append, Bool.and_eq_true] at unchanged
  have kept := kind.map_keep_of_isUnchanged view faithful unchanged.1
  have new := kind.appendNew_eq_of_isUnchanged unchanged.2
  simp only [reconcile, kept, new, List.append_nil]

end RowKind

end SessionBoard
