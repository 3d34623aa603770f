import Mathlib.Data.List.Nodup
import SessionBoard.Proofs.Table.Reconcile
import SessionBoard.Table.State

namespace SessionBoard

section Distinct

variable {τ κ : Type} [DecidableEq κ]

/-- The first item of each key. -/
def firstOfEach (key : τ → κ) (items : List τ) : List τ :=
  items.eraseDupsBy fun item other => key item == key other

variable {key : τ → κ} {item : τ} {items : List τ}

theorem firstOfEach_cons (key : τ → κ) (item : τ) (items : List τ) :
    firstOfEach key (item :: items) =
      item :: firstOfEach key (items.filter fun other => key other ≠ key item) := by
  simp [firstOfEach, List.eraseDupsBy_cons]

theorem firstOfEach_sublist (key : τ → κ) (items : List τ) : (firstOfEach key items).Sublist items := by
  match items with
  | [] => exact .refl _
  | item :: items =>
    rw [firstOfEach_cons]
    exact ((firstOfEach_sublist key _).trans List.filter_sublist).cons_cons item
termination_by items.length
decreasing_by exact Nat.lt_succ_of_le (List.length_filter_le _ _)

theorem map_firstOfEach (key : τ → κ) (items : List τ) :
    (firstOfEach key items).map key = (items.map key).eraseDups := by
  match items with
  | [] => rfl
  | item :: items =>
    have filtered : (items.map key).filter (fun other => !other == key item) =
        (items.filter fun other => key other ≠ key item).map key := by
      rw [List.filter_map]
      congr 1
      exact List.filter_congr fun other _ => by simp [beq_eq_decide]
    rw [firstOfEach_cons, List.map_cons, List.map_cons, List.eraseDups_cons, filtered,
      map_firstOfEach key _]
termination_by items.length
decreasing_by exact Nat.lt_succ_of_le (List.length_filter_le _ _)

theorem nodup_eraseDups (keys : List κ) : keys.eraseDups.Nodup := by
  match keys with
  | [] => exact .nil
  | first :: keys =>
    rw [List.eraseDups_cons, List.nodup_cons]
    exact ⟨by simp [List.mem_eraseDups], nodup_eraseDups _⟩
termination_by keys.length
decreasing_by exact Nat.lt_succ_of_le (List.length_filter_le _ _)

end Distinct

section InTurn

variable {τ υ γ δ : Type}

/-- Acts on some things one after the other, on each of them once, and hands the context on. -/
def inTurn (act : τ → γ → υ × γ) : List τ → γ → List υ × γ
  | [], context => ([], context)
  | item :: items, context =>
    let (done, context) := act item context
    let (rest, context) := inTurn act items context
    (done :: rest, context)

theorem map_inTurn {act : τ → γ → υ × γ} {items : List τ} {before : τ → δ} {after : υ → δ}
    (same : ∀ item ∈ items, ∀ context, after (act item context).1 = before item) (context : γ) :
    (inTurn act items context).1.map after = items.map before := by
  induction items generalizing context with
  | nil => rfl
  | cons item items ih =>
    have first := same item (by simp) context
    have rest := ih (fun other member => same other (by simp [member])) (act item context).2
    simp only [inTurn, List.map_cons, first, rest]

theorem inTurn_append (act : τ → γ → υ × γ) (items later : List τ) (context : γ) :
    inTurn act (items ++ later) context =
      ((inTurn act items context).1 ++ (inTurn act later (inTurn act items context).2).1,
        (inTurn act later (inTurn act items context).2).2) := by
  induction items generalizing context with
  | nil => rfl
  | cons item items ih => simp only [List.cons_append, inTurn, ih]

theorem snd_inTurn {act : τ → γ → υ × γ} {items : List τ} {context : γ}
    (fixed : ∀ item ∈ items, (act item context).2 = context) : (inTurn act items context).2 = context := by
  induction items with
  | nil => rfl
  | cons item items ih =>
    obtain ⟨first, rest⟩ := List.forall_mem_cons.mp fixed
    simp only [inTurn, first, ih rest]

/-- The things may be given otherwise, and what is made of them be taken otherwise. -/
theorem inTurn_congr {σ : Type} {act : τ → γ → υ × γ} {act' : σ → γ → δ × γ} {given : τ → σ}
    {taken : υ → δ} (same : ∀ item context,
      act' (given item) context = (taken (act item context).1, (act item context).2))
    (items : List τ) (context : γ) :
    inTurn act' (items.map given) context =
      ((inTurn act items context).1.map taken, (inTurn act items context).2) := by
  induction items generalizing context with
  | nil => rfl
  | cons item items ih => simp only [List.map_cons, inTurn, same, ih]

/-- Each thing is acted on once, in a context that comes after the first one and before the last one. -/
theorem inTurn_between {act : τ → γ → υ × γ} {later : γ → γ → Prop} (refl : ∀ context, later context context)
    (trans : ∀ first middle last, later first middle → later middle last → later first last)
    (step : ∀ item context, later context (act item context).2) (items : List τ) (context : γ) :
    later context (inTurn act items context).2 ∧
      (∀ item ∈ items, ∃ between, later context between ∧
        later (act item between).2 (inTurn act items context).2 ∧
        (act item between).1 ∈ (inTurn act items context).1) ∧
      ∀ done ∈ (inTurn act items context).1, ∃ item ∈ items, ∃ between, later context between ∧
        later (act item between).2 (inTurn act items context).2 ∧ done = (act item between).1 := by
  induction items generalizing context with
  | nil => exact ⟨refl context, by simp, by simp [inTurn]⟩
  | cons first items ih =>
    obtain ⟨onward, acted, made⟩ := ih (act first context).2
    have start := step first context
    refine ⟨trans _ _ _ start onward, ?_, ?_⟩
    · intro item member
      rcases List.mem_cons.mp member with rfl | member
      · exact ⟨context, refl context, onward, List.mem_cons_self⟩
      · obtain ⟨between, before, after, done⟩ := acted item member
        exact ⟨between, trans _ _ _ start before, after, List.mem_cons_of_mem _ done⟩
    · intro done member
      rcases List.mem_cons.mp member with rfl | member
      · exact ⟨first, List.mem_cons_self, context, refl context, onward, rfl⟩
      · obtain ⟨item, earlier, between, before, after, same⟩ := made done member
        exact ⟨item, List.mem_cons_of_mem _ earlier, between, trans _ _ _ start before, after, same⟩

end InTurn

/-- The ids of a snapshot in its order, with all repetitions. -/
def idsOf (snapshot : Snapshot) : List SessionId :=
  snapshot.map (·.id)

variable {snapshot : Snapshot} {id : SessionId} {record : SessionRecord}

/-- The record is the last occurrence of this id. -/
def IsLast (snapshot : Snapshot) (id : SessionId) (record : SessionRecord) : Prop :=
  record.id = id ∧ ∃ before after, snapshot = before ++ record :: after ∧ ∀ other ∈ after, other.id ≠ id

theorem lastRecord?_eq_some : lastRecord? snapshot id = some record ↔ IsLast snapshot id record := by
  simp only [lastRecord?, IsLast, List.find?_eq_some_iff_append, decide_eq_true_eq,
    Bool.not_eq_true', decide_eq_false_iff_not]
  refine and_congr_right fun _ => ⟨?_, ?_⟩
  · rintro ⟨after, before, whole, others⟩
    refine ⟨before.reverse, after.reverse, ?_, by simpa using others⟩
    rw [List.reverse_eq_iff] at whole
    simpa using whole
  · rintro ⟨before, after, rfl, others⟩
    exact ⟨after.reverse, before.reverse, by simp, by simpa using others⟩

theorem lastRecord?_eq_none : lastRecord? snapshot id = none ↔ id ∉ idsOf snapshot := by
  simp [lastRecord?, idsOf]

theorem mem_idsOf (found : lastRecord? snapshot id = some record) : id ∈ idsOf snapshot := by
  obtain ⟨rfl, before, after, rfl, _⟩ := lastRecord?_eq_some.mp found
  simp [idsOf]

theorem exists_lastRecord (member : id ∈ idsOf snapshot) :
    ∃ record, lastRecord? snapshot id = some record := by
  rw [← Option.ne_none_iff_exists', ne_eq, lastRecord?_eq_none]
  exact not_not_intro member

namespace RowOp

def update? : RowOp → Option (SessionId × Bool)
  | .update key changed => some (key, changed)
  | .remove _ | .append _ => none

end RowOp

namespace ReconcileReport

theorem removed_append (report later : ReconcileReport) :
    removed (report ++ later) = report.removed ++ removed later :=
  List.filterMap_append

theorem appended_append (report later : ReconcileReport) :
    appended (report ++ later) = report.appended ++ appended later :=
  List.filterMap_append

/-- New rows are reported as such. -/
theorem of_appends (keys : List SessionId) :
    removed (keys.map .append) = [] ∧ appended (keys.map .append) = keys := by
  simp [removed, appended]

end ReconcileReport

namespace RowKind

variable {ρ γ : Type} (kind : RowKind ρ γ) {row : ρ} {rows : List ρ} {taken : List SessionId}
  {context : γ}

/-- A row bears the id of the record that it was created from or last updated with. -/
structure Keyed : Prop where
  key_create : ∀ record context, kind.key (kind.create record context).1 = record.id
  key_update : ∀ row record context, kind.key row = record.id →
    kind.key (kind.update row record context).1.1 = record.id

/-- The rows that stay, each with the last record of its session: of the rows whose session is in the
snapshot, the first one of each key. -/
def survivors (rows : List ρ) (snapshot : Snapshot) : List (ρ × SessionRecord) :=
  (firstOfEach kind.key (rows.filter fun row => kind.key row ∈ idsOf snapshot)).filterMap fun row =>
    (lastRecord? snapshot (kind.key row)).map (row, ·)

/-- The records of the sessions that are not taken, the last one of each session, in the order in
which the sessions occur first. -/
def arrivals (snapshot records : Snapshot) (taken : List SessionId) : List SessionRecord :=
  (((idsOf records).filter (· ∉ taken)).eraseDups).filterMap (lastRecord? snapshot)

/-- The row at this place stays: it is the first one of its key, and the snapshot has the key. -/
def Survives (rows : List ρ) (snapshot : Snapshot) (place : Nat) (row : ρ) : Prop :=
  kind.key row ∉ (rows.take place).map kind.key ∧ kind.key row ∈ idsOf snapshot

theorem survivors_cons_absent (absent : kind.key row ∉ idsOf snapshot) :
    kind.survivors (row :: rows) snapshot = kind.survivors rows snapshot := by
  simp [survivors, absent]

theorem survivors_cons (found : lastRecord? snapshot (kind.key row) = some record) :
    kind.survivors (row :: rows) snapshot =
      (row, record) :: kind.survivors (rows.filter fun other => kind.key other ≠ kind.key row)
        snapshot := by
  have present := mem_idsOf found
  simp only [survivors, List.filter_cons, present, decide_true, if_true, firstOfEach_cons,
    List.filterMap_cons, found, Option.map_some, List.filter_filter, Bool.and_comm]

theorem mem_survivors {item : ρ × SessionRecord} (member : item ∈ kind.survivors rows snapshot) :
    lastRecord? snapshot (kind.key item.1) = some item.2 := by
  obtain ⟨row, _, found⟩ := List.mem_filterMap.mp member
  obtain ⟨record, last, rfl⟩ := Option.map_eq_some_iff.mp found
  exact last

/-- Where no key is repeated every row stays whose session is in the snapshot. -/
theorem mem_survivors_of_nodup (distinct : (rows.map kind.key).Nodup) (member : row ∈ rows)
    (found : lastRecord? snapshot (kind.key row) = some record) :
    (row, record) ∈ kind.survivors rows snapshot := by
  induction rows with
  | nil => cases member
  | cons first rows ih =>
    obtain ⟨absent, distinct⟩ := List.nodup_cons.mp distinct
    cases last : lastRecord? snapshot (kind.key first) with
    | none =>
      rw [kind.survivors_cons_absent (lastRecord?_eq_none.mp last)]
      rcases List.mem_cons.mp member with rfl | member
      · cases last.symm.trans found
      · exact ih distinct member
    | some other =>
      have others : rows.filter (fun other => kind.key other ≠ kind.key first) = rows := by
        refine List.filter_eq_self.mpr fun other later => ?_
        exact decide_eq_true fun same => absent (same ▸ List.mem_map_of_mem later)
      rw [kind.survivors_cons last, others]
      rcases List.mem_cons.mp member with rfl | member
      · cases last.symm.trans found
        exact List.mem_cons_self
      · exact List.mem_cons_of_mem _ (ih distinct member)

theorem survivors_fst (rows : List ρ) (snapshot : Snapshot) :
    (kind.survivors rows snapshot).map Prod.fst =
      firstOfEach kind.key (rows.filter fun row => kind.key row ∈ idsOf snapshot) := by
  rw [survivors, List.map_filterMap]
  conv_rhs => rw [← List.filterMap_some (l := firstOfEach _ _)]
  refine List.filterMap_congr fun row member => ?_
  have present := List.mem_filter.mp ((firstOfEach_sublist _ _).subset member)
  obtain ⟨record, found⟩ := exists_lastRecord (of_decide_eq_true present.2)
  simp [found]

theorem mem_of_mem_survivors {item : ρ × SessionRecord} (member : item ∈ kind.survivors rows snapshot) :
    item.1 ∈ rows := by
  have kept := List.mem_map_of_mem (f := Prod.fst) member
  rw [kind.survivors_fst] at kept
  exact List.mem_of_mem_filter ((firstOfEach_sublist _ _).subset kept)

theorem survivors_keys (rows : List ρ) (snapshot : Snapshot) :
    (kind.survivors rows snapshot).map (kind.key ∘ Prod.fst) =
      ((rows.map kind.key).filter (· ∈ idsOf snapshot)).eraseDups := by
  rw [← List.map_map, survivors_fst, map_firstOfEach, List.filter_map]
  rfl

/-- What the first pass does to the rows that stay. -/
def updates (rows : List ρ) (snapshot : Snapshot) (taken : List SessionId) (context : γ) :
    List (ρ × Bool) × γ :=
  inTurn (fun item => kind.update item.1 item.2)
    (kind.survivors (rows.filter fun row => kind.key row ∉ taken) snapshot) context

theorem updates_nil (rows : List ρ) (snapshot : Snapshot) (context : γ) :
    kind.updates rows snapshot [] context =
      inTurn (fun item => kind.update item.1 item.2) (kind.survivors rows snapshot) context := by
  simp [updates]

theorem keep_of_drops (drops : kind.key row ∈ taken ∨ kind.key row ∉ idsOf snapshot) :
    kind.keep snapshot (row :: rows) taken context =
      (((kind.keep snapshot rows taken context).1.1,
        .remove (kind.key row) :: (kind.keep snapshot rows taken context).1.2),
        (kind.keep snapshot rows taken context).2) := by
  have nothing : (if kind.key row ∈ taken then none else lastRecord? snapshot (kind.key row)) =
      none := by
    rcases drops with before | absent
    · exact if_pos before
    · rw [lastRecord?_eq_none.mpr absent, ite_self]
  rw [keep, nothing]

theorem keep_of_stays (free : kind.key row ∉ taken)
    (found : lastRecord? snapshot (kind.key row) = some record) :
    kind.keep snapshot (row :: rows) taken context =
      (((kind.update row record context).1.1 ::
          (kind.keep snapshot rows (kind.key row :: taken) (kind.update row record context).2).1.1,
        .update (kind.key (kind.update row record context).1.1) (kind.update row record context).1.2 ::
          (kind.keep snapshot rows (kind.key row :: taken) (kind.update row record context).2).1.2),
        (kind.keep snapshot rows (kind.key row :: taken) (kind.update row record context).2).2) := by
  rw [keep, if_neg free, found]

/-- A row either goes or stays. -/
theorem drops_or_stays (snapshot : Snapshot) (taken : List SessionId) (row : ρ) :
    (kind.key row ∈ taken ∨ kind.key row ∉ idsOf snapshot) ∨
      kind.key row ∉ taken ∧ ∃ record, lastRecord? snapshot (kind.key row) = some record := by
  by_cases before : kind.key row ∈ taken
  · exact .inl (.inl before)
  · by_cases present : kind.key row ∈ idsOf snapshot
    · exact .inr ⟨before, exists_lastRecord present⟩
    · exact .inl (.inr present)

theorem updates_of_drops (drops : kind.key row ∈ taken ∨ kind.key row ∉ idsOf snapshot) :
    kind.updates (row :: rows) snapshot taken context = kind.updates rows snapshot taken context := by
  unfold updates
  rw [List.filter_cons]
  split
  · rename_i free
    rw [kind.survivors_cons_absent (drops.resolve_left (of_decide_eq_true free))]
  · rfl

theorem updates_of_stays (free : kind.key row ∉ taken)
    (found : lastRecord? snapshot (kind.key row) = some record) :
    kind.updates (row :: rows) snapshot taken context =
      ((kind.update row record context).1 ::
        (kind.updates rows snapshot (kind.key row :: taken) (kind.update row record context).2).1,
        (kind.updates rows snapshot (kind.key row :: taken) (kind.update row record context).2).2) := by
  have others : (rows.filter fun other => kind.key other ∉ taken).filter
      (fun other => kind.key other ≠ kind.key row) =
      rows.filter fun other => kind.key other ∉ kind.key row :: taken := by
    rw [List.filter_filter]
    exact List.filter_congr fun other _ => by simp
  have first : (row :: rows).filter (fun other => kind.key other ∉ taken) =
      row :: rows.filter fun other => kind.key other ∉ taken :=
    List.filter_cons_of_pos (by simpa using free)
  unfold updates
  rw [first, kind.survivors_cons found, inTurn, others]

/-- The first pass updates the rows that stay, each of them once, and drops the others. -/
theorem keep_eq (snapshot : Snapshot) (rows : List ρ) (taken : List SessionId) (context : γ) :
    (kind.keep snapshot rows taken context).1.1 =
        (kind.updates rows snapshot taken context).1.map Prod.fst ∧
      (kind.keep snapshot rows taken context).1.2.filterMap RowOp.update? =
        (kind.updates rows snapshot taken context).1.map (fun item => (kind.key item.1, item.2)) ∧
      (kind.keep snapshot rows taken context).2.2 = (kind.updates rows snapshot taken context).2 := by
  induction rows generalizing taken context with
  | nil => exact ⟨rfl, rfl, rfl⟩
  | cons row rows ih =>
    rcases kind.drops_or_stays snapshot taken row with drops | ⟨free, record, found⟩
    · rw [kind.keep_of_drops drops, kind.updates_of_drops drops]
      exact ih taken context
    · rw [kind.keep_of_stays free found, kind.updates_of_stays free found]
      obtain ⟨rest, changes, last⟩ := ih (kind.key row :: taken) (kind.update row record context).2
      exact ⟨congrArg (_ :: ·) rest, congrArg (_ :: ·) changes, last⟩

/-- What is taken after the first pass are the keys that the snapshot has as well. -/
theorem mem_keep_taken (rows : List ρ) (taken : List SessionId) (context : γ) (id : SessionId) :
    id ∈ (kind.keep snapshot rows taken context).2.1 ↔
      id ∈ taken ∨ id ∈ rows.map kind.key ∧ id ∈ idsOf snapshot := by
  induction rows generalizing taken context with
  | nil => simp [keep]
  | cons row rows ih =>
    rcases kind.drops_or_stays snapshot taken row with drops | ⟨free, record, found⟩
    · rw [kind.keep_of_drops drops, ih]
      grind
    · have present := mem_idsOf found
      rw [kind.keep_of_stays free found, ih]
      grind

/-- The first pass does one thing to each row, in the order of the rows: it updates the row or removes
it, by what the keys before it and the snapshot say. -/
theorem keep_ops (keyed : kind.Keyed) (snapshot : Snapshot) (rows : List ρ) (taken : List SessionId) (context : γ) :
    (kind.keep snapshot rows taken context).1.2.length = rows.length ∧
      ∀ place row, rows[place]? = some row →
        (kind.key row ∉ taken ∧ kind.Survives rows snapshot place row →
          ∃ changed, (kind.keep snapshot rows taken context).1.2[place]? =
            some (.update (kind.key row) changed)) ∧
        (¬(kind.key row ∉ taken ∧ kind.Survives rows snapshot place row) →
          (kind.keep snapshot rows taken context).1.2[place]? = some (.remove (kind.key row))) := by
  induction rows generalizing taken context with
  | nil => simp [keep]
  | cons first rows ih =>
    rcases kind.drops_or_stays snapshot taken first with drops | ⟨free, record, found⟩
    · obtain ⟨length, ops⟩ := ih taken context
      rw [kind.keep_of_drops drops]
      refine ⟨congrArg (· + 1) length, fun place row atPlace => ?_⟩
      cases place with
      | zero =>
        cases atPlace
        refine ⟨fun stays => ?_, fun _ => rfl⟩
        exact absurd drops (by simp [stays.1, stays.2.2])
      | succ place =>
        have same : kind.key row ∉ taken ∧ kind.Survives (first :: rows) snapshot (place + 1) row ↔
            kind.key row ∉ taken ∧ kind.Survives rows snapshot place row := by
          simp only [Survives, List.take_succ_cons, List.map_cons, List.mem_cons, not_or]
          grind
        rw [same]
        exact ops place row atPlace
    · obtain ⟨length, ops⟩ := ih (kind.key first :: taken) (kind.update first record context).2
      obtain ⟨named, _⟩ := lastRecord?_eq_some.mp found
      have present := mem_idsOf found
      rw [kind.keep_of_stays free found]
      refine ⟨congrArg (· + 1) length, fun place row atPlace => ?_⟩
      cases place with
      | zero =>
        cases atPlace
        refine ⟨fun _ => ⟨(kind.update first record context).1.2, ?_⟩, fun goes => ?_⟩
        · rw [List.getElem?_cons_zero, keyed.key_update _ _ _ named.symm, named]
        · exact absurd ⟨free, by simp, present⟩ goes
      | succ place =>
        have same : kind.key row ∉ taken ∧ kind.Survives (first :: rows) snapshot (place + 1) row ↔
            kind.key row ∉ kind.key first :: taken ∧ kind.Survives rows snapshot place row := by
          simp only [Survives, List.take_succ_cons, List.map_cons, List.mem_cons, not_or]
          grind
        rw [same]
        exact ops place row atPlace

theorem arrivals_cons_taken {records : Snapshot} (before : record.id ∈ taken) :
    arrivals snapshot (record :: records) taken = arrivals snapshot records taken := by
  simp [arrivals, idsOf, before]

theorem arrivals_cons {records : Snapshot} {last : SessionRecord} (free : record.id ∉ taken)
    (found : lastRecord? snapshot record.id = some last) :
    arrivals snapshot (record :: records) taken =
      last :: arrivals snapshot records (record.id :: taken) := by
  have first : (idsOf (record :: records)).filter (· ∉ taken) =
      record.id :: (idsOf records).filter (· ∉ taken) :=
    List.filter_cons_of_pos (by simpa using free)
  have others : ((idsOf records).filter (· ∉ taken)).filter (fun other => !other == record.id) =
      (idsOf records).filter (· ∉ record.id :: taken) := by
    rw [List.filter_filter]
    exact List.filter_congr fun other _ => by simp [beq_eq_decide]
  unfold arrivals
  rw [first, List.eraseDups_cons, List.filterMap_cons, found, others]

theorem map_id_arrivals {records : Snapshot} (subset : idsOf records ⊆ idsOf snapshot) :
    (arrivals snapshot records taken).map (·.id) = ((idsOf records).filter (· ∉ taken)).eraseDups := by
  rw [arrivals, List.map_filterMap]
  conv_rhs => rw [← List.filterMap_some (l := List.eraseDups _)]
  refine List.filterMap_congr fun id member => ?_
  rw [List.mem_eraseDups] at member
  obtain ⟨record, found⟩ := exists_lastRecord (subset (List.mem_of_mem_filter member))
  rw [found, Option.map_some, (lastRecord?_eq_some.mp found).1]

theorem mem_arrivals : record ∈ arrivals snapshot snapshot taken ↔
    IsLast snapshot record.id record ∧ record.id ∉ taken := by
  simp only [arrivals, List.mem_filterMap, List.mem_eraseDups, List.mem_filter, decide_eq_true_eq]
  constructor
  · rintro ⟨id, ⟨_, free⟩, found⟩
    have last := lastRecord?_eq_some.mp found
    obtain rfl := last.1
    exact ⟨last, free⟩
  · rintro ⟨last, free⟩
    have found := lastRecord?_eq_some.mpr last
    exact ⟨record.id, ⟨mem_idsOf found, free⟩, found⟩

/-- The second pass creates a row for every session that is not taken, once. -/
theorem appendNew_eq {records : Snapshot} (subset : idsOf records ⊆ idsOf snapshot)
    (taken : List SessionId) (context : γ) :
    kind.appendNew snapshot records taken context =
      (((inTurn kind.create (arrivals snapshot records taken) context).1,
        ((inTurn kind.create (arrivals snapshot records taken) context).1.map kind.key).map .append),
        (inTurn kind.create (arrivals snapshot records taken) context).2) := by
  induction records generalizing taken context with
  | nil => rfl
  | cons record records ih =>
    have rest : idsOf records ⊆ idsOf snapshot := fun id member => subset (by simp [idsOf] at *; grind)
    by_cases before : record.id ∈ taken
    · rw [appendNew, if_pos before, arrivals_cons_taken before]
      exact ih rest taken context
    · obtain ⟨last, found⟩ := exists_lastRecord (subset (by simp [idsOf]) : record.id ∈ idsOf snapshot)
      rw [appendNew, if_neg before, found, arrivals_cons before found]
      simp only [ih rest, inTurn, List.map_cons]

theorem removed_keep (rows : List ρ) (taken : List SessionId) (context : γ)
    (distinct : (rows.map kind.key).Nodup) (free : ∀ row ∈ rows, kind.key row ∉ taken) :
    ReconcileReport.removed (kind.keep snapshot rows taken context).1.2 =
      (rows.map kind.key).filter (· ∉ idsOf snapshot) := by
  induction rows generalizing taken context with
  | nil => rfl
  | cons row rows ih =>
    rw [List.map_cons, List.nodup_cons] at distinct
    have freeRow := free row (by simp)
    have freeRest : ∀ other ∈ rows, kind.key other ∉ taken := fun other member =>
      free other (by simp [member])
    rcases kind.drops_or_stays snapshot taken row with drops | ⟨_, record, found⟩
    · have absent := drops.resolve_left freeRow
      rw [kind.keep_of_drops drops, List.map_cons, List.filter_cons_of_pos (by simpa using absent),
        ← ih taken context distinct.2 freeRest]
      rfl
    · have others : ∀ other ∈ rows, kind.key other ∉ kind.key row :: taken := by
        intro other member
        rw [List.mem_cons, not_or]
        exact ⟨fun same => distinct.1 (same ▸ List.mem_map_of_mem member), freeRest other member⟩
      have present := mem_idsOf found
      rw [kind.keep_of_stays freeRow found, List.map_cons,
        List.filter_cons_of_neg (by simpa using present), ← ih _ _ distinct.2 others]
      rfl

theorem appended_keep (rows : List ρ) (taken : List SessionId) (context : γ) :
    ReconcileReport.appended (kind.keep snapshot rows taken context).1.2 = [] := by
  induction rows generalizing taken context with
  | nil => rfl
  | cons row rows ih =>
    rcases kind.drops_or_stays snapshot taken row with drops | ⟨free, record, found⟩
    · rw [kind.keep_of_drops drops]
      exact ih taken context
    · rw [kind.keep_of_stays free found]
      exact ih _ _

/-- What brings rows in line with a snapshot, and what the report tells of it. -/
structure Reconciled (rows : List ρ) (snapshot : Snapshot) (context : γ)
    (result : (List ρ × ReconcileReport) × γ) : Prop where
  /-- The rows that stay come first: each of them has been updated once, in turn, with the record that
  counts for it. After them come the new rows: each has been created once, in turn. The report has one
  entry for each old row, in the order of the rows, and then one for each new row. -/
  course : ∃ updated between created scan,
    inTurn (fun item => kind.update item.1 item.2) (kind.survivors rows snapshot) context =
        (updated, between) ∧
      inTurn kind.create (arrivals snapshot snapshot (rows.map kind.key)) between =
        (created, result.2) ∧
      result.1.1 = updated.map Prod.fst ++ created ∧
      result.1.2 = scan ++ (created.map kind.key).map .append ∧
      scan.filterMap RowOp.update? = updated.map (fun item => (kind.key item.1, item.2)) ∧
      scan.length = rows.length ∧
      ∀ place row, rows[place]? = some row →
        (kind.Survives rows snapshot place row →
          ∃ changed, scan[place]? = some (.update (kind.key row) changed)) ∧
        (¬kind.Survives rows snapshot place row → scan[place]? = some (.remove (kind.key row)))
  survivors_in_order : ((kind.survivors rows snapshot).map Prod.fst).Sublist rows
  survivors_last : ∀ item ∈ kind.survivors rows snapshot, IsLast snapshot (kind.key item.1) item.2
  arrivals_last : ∀ record ∈ arrivals snapshot snapshot (rows.map kind.key),
    IsLast snapshot record.id record
  /-- The keys of the rows that stay and then the ids that no row had, each in the order in which they
  occur first. -/
  keys_eq : result.1.1.map kind.key =
    ((rows.map kind.key).filter (· ∈ idsOf snapshot)).eraseDups ++
      ((idsOf snapshot).filter (· ∉ rows.map kind.key)).eraseDups
  keys_nodup : (result.1.1.map kind.key).Nodup
  mem_keys_iff : ∀ id, id ∈ result.1.1.map kind.key ↔ id ∈ idsOf snapshot
  removed_eq : (rows.map kind.key).Nodup →
    result.1.2.removed = (rows.map kind.key).filter (· ∉ idsOf snapshot)
  appended_eq : result.1.2.appended =
    ((idsOf snapshot).filter (· ∉ rows.map kind.key)).eraseDups

/-- What the second pass finds taken are the keys of the old rows, as far as it can tell. -/
theorem arrivals_keep (rows : List ρ) (context : γ) :
    arrivals snapshot snapshot (kind.keep snapshot rows [] context).2.1 =
      arrivals snapshot snapshot (rows.map kind.key) := by
  unfold arrivals
  congr 2
  refine List.filter_congr fun id present => ?_
  simp [kind.mem_keep_taken, present]

theorem nodup_keys (old ids : List SessionId) :
    ((old.filter (· ∈ ids)).eraseDups ++ (ids.filter (· ∉ old)).eraseDups).Nodup := by
  refine List.nodup_append.mpr ⟨nodup_eraseDups _, nodup_eraseDups _, ?_⟩
  rintro id early _ late rfl
  simp_all [List.mem_eraseDups]

theorem mem_keys (old ids : List SessionId) (id : SessionId) :
    id ∈ (old.filter (· ∈ ids)).eraseDups ++ (ids.filter (· ∉ old)).eraseDups ↔ id ∈ ids := by
  simp only [List.mem_append, List.mem_eraseDups, List.mem_filter, decide_eq_true_eq]
  grind

/-- The rows that stay after their updates, and then the new rows. -/
theorem reconcile_eq (rows : List ρ) (snapshot : Snapshot) (context : γ) {updated between created last}
    (first : inTurn (fun item => kind.update item.1 item.2) (kind.survivors rows snapshot) context =
      (updated, between))
    (second : inTurn kind.create (arrivals snapshot snapshot (rows.map kind.key)) between =
      (created, last)) :
    kind.reconcile rows snapshot context =
      ((updated.map Prod.fst ++ created, (kind.keep snapshot rows [] context).1.2 ++
        (created.map kind.key).map .append), last) := by
  have all := (kind.updates_nil rows snapshot context).trans first
  obtain ⟨kept, _, handed⟩ := kind.keep_eq snapshot rows [] context
  have new := kind.appendNew_eq (List.Subset.refl (idsOf snapshot))
    (kind.keep snapshot rows [] context).2.1 (kind.keep snapshot rows [] context).2.2
  rw [kind.arrivals_keep, handed, all, second] at new
  rw [all] at kept handed
  simp only [reconcile, new, kept, handed]

theorem survivors_last (rows : List ρ) (snapshot : Snapshot) :
    ∀ item ∈ kind.survivors rows snapshot, IsLast snapshot (kind.key item.1) item.2 :=
  fun _ member => lastRecord?_eq_some.mp (kind.mem_survivors member)

theorem arrivals_last (snapshot : Snapshot) (taken : List SessionId) :
    ∀ record ∈ arrivals snapshot snapshot taken, IsLast snapshot record.id record := by
  intro record member
  obtain ⟨id, _, found⟩ := List.mem_filterMap.mp member
  have last := lastRecord?_eq_some.mp found
  rwa [← last.1] at last

/-- An update leaves the keys of the rows that stay as they are. -/
theorem map_key_updated (keyed : kind.Keyed) (rows : List ρ) (snapshot : Snapshot) (context : γ) :
    ((inTurn (fun item => kind.update item.1 item.2) (kind.survivors rows snapshot) context).1.map
        Prod.fst).map kind.key =
      ((rows.map kind.key).filter (· ∈ idsOf snapshot)).eraseDups := by
  rw [List.map_map, ← kind.survivors_keys]
  refine map_inTurn (fun item member context => ?_) context
  have named := (kind.survivors_last rows snapshot item member).1
  exact (keyed.key_update _ _ context named.symm).trans named

theorem map_key_created (keyed : kind.Keyed) (snapshot : Snapshot) (taken : List SessionId)
    (context : γ) :
    (inTurn kind.create (arrivals snapshot snapshot taken) context).1.map kind.key =
      ((idsOf snapshot).filter (· ∉ taken)).eraseDups := by
  rw [← map_id_arrivals (fun _ => id)]
  exact map_inTurn (fun record _ context => keyed.key_create record context) context

/-- Rows are brought in line with a snapshot, whatever keys the rows repeat and whatever ids the snapshot
repeats. The first row of each key stays if the snapshot has the key, the ids that are left get new rows, and
the last record of an id is the one that counts. -/
theorem reconciled (keyed : kind.Keyed) (rows : List ρ) (snapshot : Snapshot) (context : γ) :
    kind.Reconciled rows snapshot context (kind.reconcile rows snapshot context) := by
  have updatedKeys := kind.map_key_updated keyed rows snapshot context
  have changes := (kind.keep_eq snapshot rows [] context).2.1
  obtain ⟨length, ops⟩ := kind.keep_ops keyed snapshot rows [] context
  rw [kind.updates_nil] at changes
  cases first : inTurn (fun item => kind.update item.1 item.2) (kind.survivors rows snapshot) context
    with | mk updated between
  have createdKeys := kind.map_key_created keyed snapshot (rows.map kind.key) between
  cases second : inTurn kind.create (arrivals snapshot snapshot (rows.map kind.key)) between
    with | mk created last
  rw [first] at updatedKeys changes
  rw [second] at createdKeys
  obtain ⟨noRemoval, allAppended⟩ := ReconcileReport.of_appends (created.map kind.key)
  have keys : (updated.map Prod.fst ++ created).map kind.key =
      ((rows.map kind.key).filter (· ∈ idsOf snapshot)).eraseDups ++
        ((idsOf snapshot).filter (· ∉ rows.map kind.key)).eraseDups := by
    rw [List.map_append, updatedKeys, createdKeys]
  rw [kind.reconcile_eq rows snapshot context first second]
  refine ⟨?_, ?_, kind.survivors_last rows snapshot, arrivals_last snapshot _, keys, ?_, ?_, ?_, ?_⟩
  · exact ⟨updated, between, created, _, first, second, rfl, rfl, changes, length, by simpa using ops⟩
  · rw [kind.survivors_fst]
    exact (firstOfEach_sublist _ _).trans List.filter_sublist
  · rw [keys]
    exact nodup_keys _ _
  · intro id
    rw [keys]
    exact mem_keys _ _ id
  · intro distinct
    rw [ReconcileReport.removed_append, noRemoval, List.append_nil]
    exact kind.removed_keep rows [] context distinct (by simp)
  · rw [ReconcileReport.appended_append, kind.appended_keep, allAppended, createdKeys]
    rfl

end RowKind

namespace SessionRow

/-- A row of the table bears the id of the record that it shows. -/
theorem kind_keyed : SessionRow.kind.Keyed where
  key_create _ _ := rfl
  key_update row record context _ := by
    show (row.update record context).1.1.record.id = record.id
    unfold SessionRow.update
    dsimp only
    split <;> rfl

/-- Two rows of one key against a snapshot that has their id once and another id twice: the first of
the rows stays and the second one goes, like the row that the snapshot has not, and one row is new. -/
theorem reconciled_with_repetitions :
    ∃ rows snapshot, rows.map kind.key = [⟨"a"⟩, ⟨"b"⟩, ⟨"a"⟩] ∧
      idsOf snapshot = [⟨"c"⟩, ⟨"a"⟩, ⟨"c"⟩] ∧
      (kind.reconcile rows snapshot default).1.1.map (fun row => (row.key.text, row.record.host)) =
        [("a", "first"), ("c", "last")] ∧
      (kind.reconcile rows snapshot default).1.2 =
        [.update ⟨"a"⟩ true, .remove ⟨"b"⟩, .remove ⟨"a"⟩, .append ⟨"c"⟩] ∧
      kind.Keyed ∧ kind.Reconciled rows snapshot default (kind.reconcile rows snapshot default) := by
  refine ⟨["a", "b", "a"].map fun text => ⟨{ (default : SessionRecord) with id := ⟨text⟩ }, default⟩,
    [("c", ""), ("a", "first"), ("c", "last")].map fun shown =>
      { (default : SessionRecord) with id := ⟨shown.1⟩, host := shown.2 },
    ?_, ?_, ?_, ?_, kind_keyed, kind.reconciled kind_keyed _ _ _⟩ <;> decide

end SessionRow

end SessionBoard
