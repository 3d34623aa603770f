import SessionBoard.Proofs.Reach
import SessionBoard.Proofs.Table.Displays

namespace SessionBoard

open SessionRow (carried? furnish brought)

/-- The generations of the displays of some rows. -/
def generations (rows : List SessionRow) : List Nat :=
  rows.map (·.uptime.generation)

theorem filterMap_sublist_map {τ υ : Type} {read? : τ → Option υ} {read : τ → υ}
    (same : ∀ item value, read? item = some value → value = read item) (items : List τ) :
    (items.filterMap read?).Sublist (items.map read) := by
  induction items with
  | nil => exact .slnil
  | cons item items ih =>
    cases found : read? item with
    | none =>
      rw [List.filterMap_cons_none found]
      exact ih.cons _
    | some value =>
      rw [List.filterMap_cons_some found, same item value found]
      exact ih.cons_cons _

namespace SessionRow

variable {rows : List SessionRow} {snapshot : Snapshot} {context : RowContext}

/-- The generation that a session keeps. -/
def carriedGeneration? (item : Option SessionRow × SessionRecord) : Option Nat :=
  (carried? item.1 item.2).map LiveTime.generation

theorem carried_sublist (rows : List SessionRow) (snapshot : Snapshot) :
    ((brought rows snapshot).filterMap carriedGeneration?).Sublist (generations rows) := by
  have new : ((RowKind.arrivals snapshot snapshot (rows.map SessionRow.key)).map
      fun record => ((none : Option SessionRow), record)).filterMap carriedGeneration? = [] := by
    rw [List.filterMap_map]
    exact List.filterMap_eq_nil_iff.mpr fun _ _ => rfl
  have stay : ((kind.survivors rows snapshot).filterMap
      (carriedGeneration? ∘ fun item => (some item.1, item.2))).Sublist
      (generations ((kind.survivors rows snapshot).map Prod.fst)) := by
    rw [generations, List.map_map]
    refine filterMap_sublist_map (fun item generation found => ?_) _
    obtain ⟨display, carried, rfl⟩ := Option.map_eq_some_iff.mp found
    obtain ⟨row, same, rfl, _⟩ := carried?_eq_some.mp carried
    cases same
    rfl
  rw [brought, List.filterMap_append, new, List.append_nil, List.filterMap_map]
  refine stay.trans ?_
  rw [kind.survivors_fst]
  exact ((firstOfEach_sublist _ _).trans List.filter_sublist).map _

/-- Displays that are kept have generations below those that are given out, so no two are the same. -/
theorem generations_inTurn (items : List (Option SessionRow × SessionRecord)) (context : RowContext)
    (distinct : (items.filterMap carriedGeneration?).Nodup)
    (bound : ∀ generation ∈ items.filterMap carriedGeneration?, generation < context.nextGeneration) :
    (generations (inTurn furnish items context).1).Nodup ∧
      ∀ generation ∈ generations (inTurn furnish items context).1,
        generation < (inTurn furnish items context).2.nextGeneration ∧
          (generation ∈ items.filterMap carriedGeneration? ∨ context.nextGeneration ≤ generation) := by
  induction items generalizing context with
  | nil => simp [inTurn, generations]
  | cons item items ih =>
    have onward := (furnished_inTurn items (furnish item context).2).1.generation
    cases carried : carried? item.1 item.2 with
    | some display =>
      have kept : carriedGeneration? item = some display.generation := by
        rw [carriedGeneration?, carried, Option.map_some]
      rw [List.filterMap_cons_some kept] at distinct bound ⊢
      rw [List.nodup_cons] at distinct
      rw [List.forall_mem_cons] at bound
      have made : furnish item context = (⟨item.2, display⟩, context) := by simp only [furnish, carried]
      obtain ⟨others, least⟩ := ih context distinct.2 bound.2
      simp only [inTurn, made, generations, List.map_cons] at onward least ⊢
      refine ⟨List.nodup_cons.mpr ⟨fun again => ?_, others⟩, List.forall_mem_cons.mpr ⟨?_, ?_⟩⟩
      · rcases (least _ again).2 with carried | given
        · exact distinct.1 carried
        · exact Nat.lt_irrefl _ (Nat.lt_of_lt_of_le bound.1 given)
      · exact ⟨Nat.lt_of_lt_of_le bound.1 onward, .inl List.mem_cons_self⟩
      · exact fun generation member =>
          (least generation member).imp_right (·.imp_left (List.mem_cons_of_mem _))
    | none =>
      have lost : carriedGeneration? item = none := by rw [carriedGeneration?, carried, Option.map_none]
      rw [List.filterMap_cons_none lost] at distinct bound ⊢
      have made : furnish item context = create item.2 context := by simp only [furnish, carried]
      have next : (create item.2 context).2.nextGeneration = context.nextGeneration + 1 := rfl
      have given : (create item.2 context).1.uptime.generation = context.nextGeneration := rfl
      obtain ⟨others, least⟩ := ih (create item.2 context).2 distinct fun generation member =>
        Nat.lt_succ_of_lt (bound generation member)
      simp only [inTurn, made, generations, List.map_cons, given, next] at onward least ⊢
      refine ⟨List.nodup_cons.mpr ⟨fun again => ?_, others⟩, List.forall_mem_cons.mpr ⟨?_, ?_⟩⟩
      · rcases (least _ again).2 with carried | later
        · exact Nat.lt_irrefl _ (bound _ carried)
        · exact Nat.lt_irrefl _ later
      · exact ⟨onward, .inr (Nat.le_refl _)⟩
      · exact fun generation member =>
          (least generation member).imp_right (·.imp_right Nat.le_of_succ_le)

end SessionRow

namespace TableState

variable {table table' middle : TableState} {snapshot : Snapshot} {now : Clock}

/-- No two displays have the same generation, and no generation has yet to be given out. -/
structure Numbered (table : TableState) : Prop where
  distinct : (generations table.rows).Nodup
  bound : ∀ generation ∈ generations table.rows, generation < table.context.nextGeneration

theorem Numbered.applySnapshot (numbered : table.Numbered) (snapshot : Snapshot) (now : Clock) :
    (table.applySnapshot snapshot now).1.Numbered := by
  have carried := SessionRow.carried_sublist table.rows snapshot
  obtain ⟨distinct, bound⟩ := SessionRow.generations_inTurn (brought table.rows snapshot)
    { table.context with now := now } (carried.nodup numbered.distinct)
    fun generation member => numbered.bound generation (carried.subset member)
  rw [furnished_applySnapshot] at distinct bound
  exact ⟨distinct, fun generation member => (bound generation member).1⟩

/-- A tick goes over the text of the displays, and leaves the displays themselves. -/
theorem kept_tick (table : TableState) (now : Clock) :
    (table.tick now).1.rows.map (fun row => (row.record, row.uptime.startedAt, row.uptime.generation)) =
      table.rows.map fun row => (row.record, row.uptime.startedAt, row.uptime.generation) := by
  rw [rows_tick, List.map_map]
  refine List.map_congr_left fun row _ => ?_
  simp only [Function.comp, SessionRow.polled, LiveTime.poll]
  split <;> rfl

theorem generations_tick (table : TableState) (now : Clock) :
    generations (table.tick now).1.rows = generations table.rows := by
  have kept := congrArg (List.map fun display => display.2.2) (table.kept_tick now)
  rwa [List.map_map, List.map_map] at kept

theorem Numbered.tick (numbered : table.Numbered) (now : Clock) : (table.tick now).1.Numbered := by
  refine ⟨?_, ?_⟩
  · rw [generations_tick]
    exact numbered.distinct
  · rw [generations_tick]
    exact numbered.bound

inductive Move
  | snapshot (snapshot : Snapshot) (now : Clock)
  | tick (now : Clock)

def move? (table : TableState) : Move → Option TableState
  | .snapshot snapshot now => some (table.applySnapshot snapshot now).1
  | .tick now => some (table.tick now).1

/-- Moves, oldest first, with the tables that they found. -/
abbrev History := List (TableState × Move)

variable {move : Move} {past later : History}

theorem Numbered.of_move (numbered : table.Numbered) (taken : table.move? move = some table') :
    table'.Numbered := by
  cases move with
  | snapshot snapshot now =>
    cases taken
    exact numbered.applySnapshot snapshot now
  | tick now =>
    cases taken
    exact numbered.tick now

/-- The row that had a display before has the same session and counts from the same start. -/
def Inherits (table : TableState) (row : SessionRow) : Prop :=
  ∃ old ∈ table.rows, old.uptime.generation = row.uptime.generation ∧ old.key = row.key ∧
    old.uptime.startedAt = row.uptime.startedAt

/-- What is not given out by a move was there before it. -/
theorem inherits_of_move (taken : table.move? move = some table') :
    table.context.nextGeneration ≤ table'.context.nextGeneration ∧
      ∀ row ∈ table'.rows, row.uptime.generation < table.context.nextGeneration → table.Inherits row := by
  cases move with
  | snapshot snapshot now =>
    cases taken
    obtain ⟨onward, _, made⟩ := table.displays_applySnapshot snapshot now
    refine ⟨onward.generation, fun row member early => ?_⟩
    obtain ⟨item, wanted, furnished⟩ := made row member
    cases carried : carried? item.1 item.2 with
    | none =>
      obtain ⟨generation, least, _, same⟩ := furnished.renewed carried
      rw [same] at early
      exact absurd early (Nat.not_lt.mpr least)
    | some display =>
      obtain ⟨item, record⟩ := item
      obtain ⟨old, rfl, rfl, _⟩ := SessionRow.carried?_eq_some.mp carried
      obtain ⟨earlier, last⟩ := SessionRow.of_mem_brought wanted
      have same := furnished.carried _ carried
      exact ⟨old, earlier, congrArg LiveTime.generation same.symm,
        last.1.symm.trans (congrArg SessionRecord.id furnished.record).symm,
        congrArg LiveTime.startedAt same.symm⟩
  | tick now =>
    cases taken
    refine ⟨Nat.le_refl _, fun row member _ => ?_⟩
    have kept := List.mem_map_of_mem
      (f := fun row : SessionRow => (row.record, row.uptime.startedAt, row.uptime.generation)) member
    rw [kept_tick] at kept
    obtain ⟨old, earlier, same⟩ := List.mem_map.mp kept
    simp only [Prod.mk.injEq] at same
    exact ⟨old, earlier, same.2.2, congrArg SessionRecord.id same.1, same.2.1⟩

theorem inherits_of_reach (reach : Reach move? table later table') :
    table.context.nextGeneration ≤ table'.context.nextGeneration ∧
      ∀ row ∈ table'.rows, row.uptime.generation < table.context.nextGeneration → table.Inherits row := by
  induction reach with
  | start => exact ⟨Nat.le_refl _, fun row member _ => ⟨row, member, rfl, rfl, rfl⟩⟩
  | next _ taken ih =>
    obtain ⟨onward, inherits⟩ := inherits_of_move taken
    refine ⟨Nat.le_trans ih.1 onward, fun row member early => ?_⟩
    obtain ⟨between, isBetween, sameGeneration, sameKey, sameStart⟩ :=
      inherits row member (Nat.lt_of_lt_of_le early ih.1)
    obtain ⟨old, isOld, generation, key, start⟩ := ih.2 between isBetween (sameGeneration ▸ early)
    exact ⟨old, isOld, generation.trans sameGeneration, key.trans sameKey, start.trans sameStart⟩

/-- The generation is that of no display, now or earlier. -/
def Unseen (past : History) (table : TableState) (generation : Nat) : Prop :=
  generation ∉ generations table.rows ∧ ∀ moment ∈ past, generation ∉ generations moment.1.rows

/-- What a snapshot makes of the displays of a table whose displays are recomputed every `interval`
milliseconds. Every row afterwards has the session of the last record that the snapshot has of it. -/
structure Refreshed (past : History) (table : TableState) (interval : Nat) (snapshot : Snapshot)
    (now : Clock) (rows : List SessionRow) : Prop where
  one_each : (rows.map SessionRow.key).Nodup
  listed : ∀ row ∈ rows, IsLast snapshot row.key row.record
  /-- The same start: the display stays as it is, whatever else of the record has changed. -/
  kept : ∀ row ∈ table.rows, ∀ record, IsLast snapshot row.key record →
    record.startedAt = row.record.startedAt → ⟨record, row.uptime⟩ ∈ rows
  /-- Another start: a display like that of a new row. -/
  rebuilt : ∀ row ∈ table.rows, ∀ record, IsLast snapshot row.key record →
    record.startedAt ≠ row.record.startedAt → ∃ generation, Unseen past table generation ∧
      ⟨record, .start record.startedAt generation interval now⟩ ∈ rows
  /-- A session that had no row, for the first time or once more. -/
  built : ∀ record, IsLast snapshot record.id record → record.id ∉ table.rows.map SessionRow.key →
    ∃ generation, Unseen past table generation ∧
      ⟨record, .start record.startedAt generation interval now⟩ ∈ rows

/-- What holds of the displays of a table, whatever snapshots and ticks there were. -/
structure Guarded (past : History) (table : TableState) (interval : Nat) : Prop where
  on_time : ∀ row ∈ table.rows, row.uptime.startedAt = row.record.startedAt
  distinct : (generations table.rows).Nodup
  /-- A generation that is seen again is that of the same session, which has had the display all the time
  and with the same start. -/
  never_reused : ∀ before found move later, past = before ++ (found, move) :: later →
    ∀ old ∈ found.rows, ∀ row ∈ table.rows, row.uptime.generation = old.uptime.generation →
      row.key = old.key ∧ row.uptime.startedAt = old.uptime.startedAt ∧
        ∀ moment ∈ later, ∃ between ∈ moment.1.rows, between.key = old.key ∧
          between.uptime.generation = old.uptime.generation ∧
          between.uptime.startedAt = old.uptime.startedAt
  refreshed : ∀ snapshot now,
    Refreshed past table interval snapshot now (table.applySnapshot snapshot now).1.rows
  ticked : ∀ now, (table.tick now).1.rows.map
      (fun row => (row.record, row.uptime.startedAt, row.uptime.generation)) =
    table.rows.map fun row => (row.record, row.uptime.startedAt, row.uptime.generation)

section

variable {start : Clock} {interval : Nat} (reach : Reach move? (.start start interval) past table)

include reach

theorem numbered_of_reach : table.Numbered :=
  reach.invariant Numbered ⟨.nil, by simp [TableState.start, generations]⟩
    fun _ _ _ numbered taken => numbered.of_move taken

theorem interval_of_reach : table.context.tick = interval := by
  refine reach.invariant (fun table => table.context.tick = interval) rfl fun table move _ same taken => ?_
  cases move with
  | snapshot snapshot now =>
    cases taken
    exact (table.displays_applySnapshot snapshot now).1.tick.trans same
  | tick now =>
    cases taken
    exact same

theorem kept_of_reach : table.Kept := by
  refine reach.invariant Kept (kept_start start interval) fun table move _ kept taken => ?_
  cases move with
  | snapshot snapshot now =>
    cases taken
    exact table.kept_applySnapshot snapshot now
  | tick now =>
    cases taken
    exact kept.tick now

theorem keys_nodup_of_reach : (table.rows.map SessionRow.key).Nodup := by
  refine reach.invariant (fun table => (table.rows.map SessionRow.key).Nodup) .nil
    fun table move _ distinct taken => ?_
  cases move with
  | snapshot snapshot now =>
    cases taken
    exact (table.lists_applySnapshot snapshot now).keys_nodup
  | tick now =>
    cases taken
    rw [map_key_tick]
    exact distinct

/-- What has yet to be given out has not been seen. -/
theorem unseen_of_reach {generation : Nat} (later : table.context.nextGeneration ≤ generation) :
    Unseen past table generation := by
  refine ⟨fun member => ?_, ?_⟩
  · exact Nat.not_lt.mpr later ((numbered_of_reach reach).bound generation member)
  · rintro ⟨found, move⟩ passed member
    obtain ⟨before, after, rfl⟩ := List.append_of_mem passed
    obtain ⟨earlier, onward⟩ := reach.since
    have bound := (numbered_of_reach earlier).bound generation member
    have least := (inherits_of_reach onward).1
    omega

/-- Where a generation is seen again nothing has happened to its display but ticks. -/
theorem same_display {before later : History} {found : TableState} {move : Move}
    (whole : past = before ++ (found, move) :: later) {old row : SessionRow} (isOld : old ∈ found.rows)
    (isRow : row ∈ table.rows) (same : row.uptime.generation = old.uptime.generation) :
    row.key = old.key ∧ row.uptime.startedAt = old.uptime.startedAt := by
  subst whole
  obtain ⟨earlier, onward⟩ := reach.since
  have numbered := numbered_of_reach earlier
  have early := numbered.bound _ (List.mem_map_of_mem isOld)
  obtain ⟨first, isFirst, generation, key, start⟩ := (inherits_of_reach onward).2 row isRow (same ▸ early)
  -- There is but one display of this generation in the state that the two were compared with.
  have only : first = old :=
    List.inj_on_of_nodup_map numbered.distinct isFirst isOld (generation.trans same)
  subst only
  exact ⟨key.symm, start.symm⟩

theorem refreshed_of_reach (snapshot : Snapshot) (now : Clock) :
    Refreshed past table interval snapshot now (table.applySnapshot snapshot now).1.rows := by
  obtain ⟨_, acted, _⟩ := table.displays_applySnapshot snapshot now
  have lists := table.lists_applySnapshot snapshot now
  have distinct := keys_nodup_of_reach reach
  have onTime := (kept_of_reach reach).onTime
  -- Whatever has no display to keep gets one that is new.
  have new : ∀ old record, (old, record) ∈ brought table.rows snapshot → carried? old record = none →
      ∃ generation, Unseen past table generation ∧
        ⟨record, .start record.startedAt generation interval now⟩ ∈
          (table.applySnapshot snapshot now).1.rows := by
    intro old record wanted lost
    obtain ⟨⟨_, display⟩, member, furnished⟩ := acted _ wanted
    obtain rfl := furnished.record
    obtain ⟨generation, least, _, same⟩ := furnished.renewed lost
    refine ⟨generation, unseen_of_reach reach least, ?_⟩
    rw [← interval_of_reach reach]
    exact same ▸ member
  refine ⟨lists.keys_nodup, lists.last, ?_, ?_, ?_⟩
  · intro row member record last same
    obtain ⟨⟨_, display⟩, stays, furnished⟩ := acted _ (SessionRow.mem_brought distinct member last)
    obtain rfl := furnished.record
    have carried := SessionRow.carried?_eq_some.mpr ⟨row, rfl, rfl, (onTime row member).trans same.symm⟩
    exact furnished.carried _ carried ▸ stays
  · intro row member record last another
    refine new _ record (SessionRow.mem_brought distinct member last) ?_
    refine Option.eq_none_iff_forall_not_mem.mpr fun display carried => ?_
    obtain ⟨_, same, _, start⟩ := SessionRow.carried?_eq_some.mp carried
    cases same
    exact another (start.symm.trans (onTime row member))
  · intro record last absent
    exact new none record (SessionRow.mem_brought_new last absent) rfl

end

/-- Displays are rebuilt for a new start and for nothing else, and none is ever mistaken for another: each has a
generation of its own, which is given out once, so where a generation is seen again the display has been there
all the time and counts from the same start. -/
theorem tickers_guarded {start : Clock} {interval : Nat}
    (reach : Reach move? (.start start interval) past table) : Guarded past table interval := by
  refine ⟨(kept_of_reach reach).onTime, (numbered_of_reach reach).distinct, ?_,
    refreshed_of_reach reach, table.kept_tick⟩
  intro before found move later whole old isOld row isRow same
  obtain ⟨key, begin⟩ := same_display reach whole isOld isRow same
  refine ⟨key, begin, fun ⟨middle, move'⟩ passed => ?_⟩
  subst whole
  obtain ⟨first, rest, rfl⟩ := List.append_of_mem passed
  obtain ⟨earlier, onward⟩ := reach.since
  have whole : Reach move? found (((found, move) :: first) ++ (middle, move') :: rest) table := onward
  obtain ⟨before, after⟩ := whole.since
  have given := (numbered_of_reach earlier).bound _ (List.mem_map_of_mem isOld)
  have early : row.uptime.generation < middle.context.nextGeneration := by
    rw [same]
    exact Nat.lt_of_lt_of_le given (inherits_of_reach before).1
  obtain ⟨between, isBetween, generation, sameKey, sameStart⟩ := (inherits_of_reach after).2 row isRow early
  exact ⟨between, isBetween, sameKey.trans key, generation.trans same, sameStart.trans begin⟩

/-- One session stays and goes live, one goes and comes back, and of a third one, which the last snapshot
repeats, the last record tells another start. -/
theorem tickers_guarded_on_return :
    ∃ past table, Reach move? (.start ⟨0, 5000⟩ 100) past table ∧
      generations table.rows = [1, 4, 5] ∧
      past.map (fun moment => generations moment.1.rows) = [[], [1, 2, 3], [1, 2, 3], [1, 3]] ∧
      table.rows.map (fun row => (row.key.text, row.uptime.groups, row.uptime.nextDue)) =
        [("a", [['5']], 200), ("c", [['3']], 300), ("b", [['4']], 300)] ∧
      Guarded past table 100 := by
  have reach : Reach move? (.start ⟨0, 5000⟩ 100) _ _ :=
    .of_trail [
      .snapshot [.plain "a" .waiting 0, .plain "b" .waiting 1000, .plain "c" .waiting 0] ⟨0, 5000⟩,
      .tick ⟨160, 5160⟩,
      .snapshot [.plain "a" .established 0, .plain "c" .waiting 0] ⟨180, 5180⟩,
      .snapshot [.plain "c" .waiting 0, .plain "b" .waiting 1000, .plain "a" .established 0,
        .plain "c" .waiting 2000] ⟨200, 5200⟩] rfl
  exact ⟨_, _, reach, by decide, by decide, by decide, tickers_guarded reach⟩

end TableState

end SessionBoard
