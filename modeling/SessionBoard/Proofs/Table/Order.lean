import Mathlib.Data.List.GetD
import Mathlib.Data.List.Induction
import SessionBoard.Proofs.Table.Generations

namespace SessionBoard

section Places

variable {keys : List SessionId}

theorem eraseDups_eq_self (distinct : keys.Nodup) : keys.eraseDups = keys := by
  induction keys with
  | nil => rfl
  | cons key keys ih =>
    obtain ⟨apart, distinct⟩ := List.nodup_cons.mp distinct
    have others : keys.filter (fun other => !other == key) = keys := by
      refine List.filter_eq_self.mpr fun other member => ?_
      rw [Bool.not_eq_true', beq_eq_false_iff_ne]
      exact fun same => apart (same ▸ member)
    rw [List.eraseDups_cons, others, ih distinct]

/-- What is kept of a list, without the repetitions, is in the order in which it occurs first. -/
theorem pairwise_idxOf_eraseDups (keys : List SessionId) (wanted : SessionId → Bool) :
    (keys.filter wanted).eraseDups.Pairwise fun a b => keys.idxOf a < keys.idxOf b := by
  induction keys generalizing wanted with
  | nil => exact .nil
  | cons key keys ih =>
    -- All but the first id are found one place further on.
    have shifted : ∀ wanted, wanted key = false →
        (keys.filter wanted).eraseDups.Pairwise fun a b => (key :: keys).idxOf a < (key :: keys).idxOf b := by
      intro wanted unwanted
      refine (ih wanted).imp_of_mem fun {a b} left right before => ?_
      have other : ∀ id ∈ (keys.filter wanted).eraseDups, key ≠ id := by
        rintro id member rfl
        rw [List.mem_eraseDups, List.mem_filter, unwanted] at member
        cases member.2
      rw [List.idxOf_cons_ne _ (other a left), List.idxOf_cons_ne _ (other b right)]
      exact Nat.succ_lt_succ before
    cases own : wanted key with
    | false =>
      rw [List.filter_cons_of_neg (by simp [own])]
      exact shifted wanted own
    | true =>
      rw [List.filter_cons_of_pos own, List.eraseDups_cons, List.filter_filter]
      refine .cons (fun other member => ?_) (shifted _ (by simp))
      rw [List.mem_eraseDups, List.mem_filter] at member
      have apart : key ≠ other := by
        rintro rfl
        simp at member
      rw [List.idxOf_cons_self, List.idxOf_cons_ne _ apart]
      exact Nat.succ_pos _

end Places

/-- The ids of the snapshot with this index. -/
def idsAt (snapshots : List Snapshot) (index : Nat) : List SessionId :=
  idsOf (snapshots.getD index [])

/-- The session is in the last snapshot. -/
def Present (snapshots : List Snapshot) (id : SessionId) : Prop :=
  ∃ index, index + 1 = snapshots.length ∧ id ∈ idsAt snapshots index

/-- The session has been present since the snapshot with the index `moment`, in which it occurs first at this
place, and was not in the one before. -/
structure CameAt (snapshots : List Snapshot) (id : SessionId) (moment place : Nat) : Prop where
  bound : moment < snapshots.length
  since : ∀ index, moment ≤ index → index < snapshots.length → id ∈ idsAt snapshots index
  anew : ∀ earlier, earlier + 1 = moment → id ∉ idsAt snapshots earlier
  place : (idsAt snapshots moment).idxOf id = place

variable {snapshots snapshots' : List Snapshot} {snapshot : Snapshot} {id : SessionId} {index moment place : Nat}

theorem idsAt_next_of_lt (before : index < snapshots.length) (snapshot : Snapshot) :
    idsAt (snapshots ++ [snapshot]) index = idsAt snapshots index := by
  rw [idsAt, idsAt, List.getD_append _ _ _ _ before]

theorem idsAt_next_length (snapshots : List Snapshot) (snapshot : Snapshot) :
    idsAt (snapshots ++ [snapshot]) snapshots.length = idsOf snapshot := by
  rw [idsAt, List.getD_eq_getElem?_getD, List.getElem?_concat_length, Option.getD_some]

theorem present_next : Present (snapshots ++ [snapshot]) id ↔ id ∈ idsOf snapshot := by
  rw [← idsAt_next_length snapshots snapshot]
  constructor
  · rintro ⟨index, last, member⟩
    rw [List.length_append, List.length_singleton] at last
    rwa [← Nat.succ.inj last]
  · exact fun member => ⟨snapshots.length, by simp, member⟩

/-- A session of the last snapshot has been there since it came before, or it comes now. -/
theorem cameAt_next : CameAt (snapshots ++ [snapshot]) id moment place ↔
    id ∈ idsOf snapshot ∧ (CameAt snapshots id moment place ∨
      ¬Present snapshots id ∧ moment = snapshots.length ∧ (idsOf snapshot).idxOf id = place) := by
  have size : (snapshots ++ [snapshot]).length = snapshots.length + 1 := by simp
  constructor
  · rintro ⟨bound, since, anew, rfl⟩
    rw [size] at bound since
    have last := since snapshots.length (Nat.le_of_lt_succ bound) (Nat.lt_succ_self _)
    rw [idsAt_next_length] at last
    refine ⟨last, ?_⟩
    rcases Nat.lt_succ_iff_lt_or_eq.mp bound with before | rfl
    · refine .inl ⟨before, fun index least most => ?_, fun earlier next => ?_, ?_⟩
      · rw [← idsAt_next_of_lt most snapshot]
        exact since index least (Nat.lt_succ_of_lt most)
      · rw [← idsAt_next_of_lt (by omega) snapshot]
        exact anew earlier next
      · rw [idsAt_next_of_lt before]
    · refine .inr ⟨?_, rfl, by rw [idsAt_next_length]⟩
      rintro ⟨earlier, next, member⟩
      rw [← idsAt_next_of_lt (by omega) snapshot] at member
      exact anew earlier next member
  · rintro ⟨last, came | ⟨absent, rfl, rfl⟩⟩
    · obtain ⟨bound, since, anew, rfl⟩ := came
      refine ⟨by omega, fun index least most => ?_, fun earlier next => ?_, idsAt_next_of_lt bound snapshot ▸ rfl⟩
      · rw [size] at most
        rcases Nat.lt_succ_iff_lt_or_eq.mp most with before | rfl
        · rw [idsAt_next_of_lt before]
          exact since index least before
        · rwa [idsAt_next_length]
      · rw [idsAt_next_of_lt (by omega)]
        exact anew earlier next
    · refine ⟨by omega, fun index least most => ?_, fun earlier next member => ?_, by rw [idsAt_next_length]⟩
      · obtain rfl : index = snapshots.length := by omega
        rwa [idsAt_next_length]
      · rw [idsAt_next_of_lt (by omega)] at member
        exact absent ⟨earlier, next, member⟩

theorem present_iff_cameAt : Present snapshots id ↔ ∃ moment place, CameAt snapshots id moment place := by
  constructor
  · induction snapshots using List.reverseRecOn with
    | nil => rintro ⟨index, last, _⟩; cases last
    | append_singleton snapshots snapshot ih =>
      rw [present_next]
      intro member
      by_cases before : Present snapshots id
      · obtain ⟨moment, place, came⟩ := ih before
        exact ⟨moment, place, cameAt_next.mpr ⟨member, .inl came⟩⟩
      · exact ⟨_, _, cameAt_next.mpr ⟨member, .inr ⟨before, rfl, rfl⟩⟩⟩
  · rintro ⟨moment, place, came⟩
    have bound := came.bound
    exact ⟨snapshots.length - 1, by omega, came.since _ (by omega) (by omega)⟩

/-- The two courses of snapshots have the same sessions at every time, and tell the sessions that come with one
another in the same order. In what order they tell those that are there already is left open. -/
structure ComeAlike (snapshots snapshots' : List Snapshot) : Prop where
  length : snapshots'.length = snapshots.length
  present : ∀ index id, id ∈ idsAt snapshots' index ↔ id ∈ idsAt snapshots index
  order : ∀ a b moment p q p' q', CameAt snapshots a moment p → CameAt snapshots b moment q →
    CameAt snapshots' a moment p' → CameAt snapshots' b moment q' → (p < q ↔ p' < q')

/-- One session came with an earlier snapshot than another one, or with the same one and at an earlier place
of it. -/
def CameBefore (snapshots : List Snapshot) (a b : SessionId) : Prop :=
  ∀ moment place moment' place', CameAt snapshots a moment place → CameAt snapshots b moment' place' →
    moment < moment' ∨ moment = moment' ∧ place < place'

namespace ComeAlike

variable (alike : ComeAlike snapshots snapshots')

include alike

theorem present_iff : Present snapshots' id ↔ Present snapshots id := by
  rw [Present, Present, alike.length]
  exact exists_congr fun index => and_congr_right fun _ => alike.present index id

/-- A session comes at the same time in both courses. -/
theorem exists_cameAt (came : CameAt snapshots id moment place) : ∃ place', CameAt snapshots' id moment place' := by
  obtain ⟨bound, since, anew, _⟩ := came
  refine ⟨_, alike.length ▸ bound, fun index least most => ?_, fun earlier next => ?_, rfl⟩
  · exact (alike.present index id).mpr (since index least (alike.length ▸ most))
  · exact (alike.present earlier id).not.mpr (anew earlier next)

end ComeAlike

/-- What a snapshot makes of the order of the sessions that are shown. -/
structure Continues (before after : List SessionId) : Prop where
  in_order : after.filter (· ∈ before) = before.filter (· ∈ after)
  behind : after.Pairwise fun a b => b ∈ before → a ∈ before

theorem continues_of_append {before new after : List SessionId} {stays : SessionId → Bool}
    (parts : after = before.filter stays ++ new) (apart : ∀ id ∈ new, id ∉ before) :
    Continues before after where
  in_order := by
    have kept : (before.filter stays).filter (· ∈ before) = before.filter stays :=
      List.filter_eq_self.mpr fun id member => by simpa using List.mem_of_mem_filter member
    have dropped : new.filter (· ∈ before) = [] :=
      List.filter_eq_nil_iff.mpr fun id member => by simpa using apart id member
    rw [parts, List.filter_append, kept, dropped, List.append_nil]
    refine List.filter_congr fun id member => ?_
    have notNew : id ∉ new := fun other => apart id other member
    simp [member, notNew]
  behind := by
    rw [parts, List.pairwise_append]
    refine ⟨?_, ?_, fun a left _ _ _ => List.mem_of_mem_filter left⟩
    · exact List.pairwise_of_forall_mem_list fun a left _ _ _ => List.mem_of_mem_filter left
    · exact List.pairwise_of_forall_mem_list fun _ _ b right member => absurd member (apart b right)

namespace TableState

variable {table table' : TableState} {past : History}

theorem keys_applySnapshot (distinct : (table.rows.map SessionRow.key).Nodup) (snapshot : Snapshot)
    (now : Clock) : (table.applySnapshot snapshot now).1.rows.map SessionRow.key =
      (table.rows.map SessionRow.key).filter (· ∈ idsOf snapshot) ++
        ((idsOf snapshot).filter (· ∉ table.rows.map SessionRow.key)).eraseDups := by
  rw [map_key_applySnapshot, eraseDups_eq_self (distinct.filter _)]

/-- The snapshots that have been applied, oldest first. -/
def snapshotsOf (past : History) : List Snapshot :=
  past.filterMap fun moment =>
    match moment.2 with
    | .snapshot snapshot _ => some snapshot
    | .tick _ => none

/-- The sessions of the last snapshot are shown in the order in which they came. -/
structure InOrder (table : TableState) (snapshots : List Snapshot) : Prop where
  keys_nodup : (table.rows.map SessionRow.key).Nodup
  mem_keys_iff : ∀ id, id ∈ table.rows.map SessionRow.key ↔ Present snapshots id
  sorted : (table.rows.map SessionRow.key).Pairwise (CameBefore snapshots)

theorem InOrder.applySnapshot (ordered : table.InOrder snapshots) (snapshot : Snapshot) (now : Clock) :
    (table.applySnapshot snapshot now).1.InOrder (snapshots ++ [snapshot]) := by
  have lists := table.lists_applySnapshot snapshot now
  refine ⟨lists.keys_nodup, fun id => (lists.mem_keys_iff id).trans present_next.symm, ?_⟩
  -- A session that is shown already came before, and any other comes now.
  have earlier : ∀ {id moment place}, id ∈ table.rows.map SessionRow.key →
      CameAt (snapshots ++ [snapshot]) id moment place → CameAt snapshots id moment place := by
    intro id moment place shown came
    refine (cameAt_next.mp came).2.resolve_right fun anew => anew.1 ?_
    exact (ordered.mem_keys_iff id).mp shown
  have now : ∀ {id moment place}, id ∉ table.rows.map SessionRow.key →
      CameAt (snapshots ++ [snapshot]) id moment place →
        moment = snapshots.length ∧ (idsOf snapshot).idxOf id = place := by
    intro id moment place hidden came
    refine ((cameAt_next.mp came).2.resolve_left fun before => hidden ?_).2
    exact (ordered.mem_keys_iff id).mpr (present_iff_cameAt.mpr ⟨_, _, before⟩)
  have hidden : ∀ {id}, id ∈ ((idsOf snapshot).filter (· ∉ table.rows.map SessionRow.key)).eraseDups →
      id ∉ table.rows.map SessionRow.key := by
    intro id member
    rw [List.mem_eraseDups, List.mem_filter] at member
    simpa using member.2
  rw [keys_applySnapshot ordered.keys_nodup, List.pairwise_append]
  refine ⟨?_, ?_, ?_⟩
  · refine (ordered.sorted.sublist List.filter_sublist).imp_of_mem fun {a b} left right before => ?_
    intro moment place moment' place' cameA cameB
    exact before _ _ _ _ (earlier (List.mem_of_mem_filter left) cameA)
      (earlier (List.mem_of_mem_filter right) cameB)
  · refine (pairwise_idxOf_eraseDups _ _).imp_of_mem fun {a b} left right before => ?_
    intro moment place moment' place' cameA cameB
    obtain ⟨rfl, rfl⟩ := now (hidden left) cameA
    obtain ⟨rfl, rfl⟩ := now (hidden right) cameB
    exact .inr ⟨rfl, before⟩
  · intro a left b right moment place moment' place' cameA cameB
    obtain ⟨rfl, _⟩ := now (hidden right) cameB
    exact .inl (earlier (List.mem_of_mem_filter left) cameA).bound

theorem inOrder_of_reach {start : Clock} {interval : Nat} (reach : Reach move? (.start start interval) past table) :
    table.InOrder (snapshotsOf past) := by
  induction reach with
  | start => exact ⟨.nil, fun id => ⟨nofun, fun ⟨_, last, _⟩ => nomatch last⟩, .nil⟩
  | @next past table move table' _ taken ih =>
    rw [snapshotsOf, filterMap_next]
    cases move with
    | snapshot snapshot now =>
      cases taken
      exact ih.applySnapshot snapshot now
    | tick now =>
      cases taken
      obtain ⟨distinct, listed, sorted⟩ := ih
      rw [← map_key_tick table now] at distinct listed sorted
      rw [Option.toList_none, List.append_nil]
      exact ⟨distinct, listed, sorted⟩

theorem InOrder.keys_of_alike {snapshots' : List Snapshot} (ordered : table.InOrder snapshots)
    (ordered' : table'.InOrder snapshots') (alike : ComeAlike snapshots snapshots') :
    table'.rows.map SessionRow.key = table.rows.map SessionRow.key := by
  have present : ∀ {id}, id ∈ table'.rows.map SessionRow.key ↔ Present snapshots id := fun {id} =>
    (ordered'.mem_keys_iff id).trans alike.present_iff
  have same : (table'.rows.map SessionRow.key).Perm (table.rows.map SessionRow.key) :=
    (List.perm_ext_iff_of_nodup ordered'.keys_nodup ordered.keys_nodup).mpr fun id =>
      present.trans (ordered.mem_keys_iff id).symm
  have sorted : (table'.rows.map SessionRow.key).Pairwise (CameBefore snapshots) := by
    refine ordered'.sorted.imp fun {a b} before moment p later q cameA cameB => ?_
    obtain ⟨p', cameA'⟩ := alike.exists_cameAt cameA
    obtain ⟨q', cameB'⟩ := alike.exists_cameAt cameB
    rcases before _ _ _ _ cameA' cameB' with sooner | ⟨rfl, ahead⟩
    · exact .inl sooner
    · exact .inr ⟨rfl, (alike.order a b moment p q p' q' cameA cameB cameA' cameB').mpr ahead⟩
  -- Both lists are sorted by when the sessions came, and they have the same members.
  refine same.eq_of_pairwise (fun a b left right forth back => ?_) sorted ordered.sorted
  obtain ⟨moment, p, cameA⟩ := present_iff_cameAt.mp (present.mp left)
  obtain ⟨later, q, cameB⟩ := present_iff_cameAt.mp ((ordered.mem_keys_iff b).mp right)
  have sooner := forth _ _ _ _ cameA cameB
  have after := back _ _ _ _ cameB cameA
  omega

/-- How the rows of a table stand after some snapshots and ticks. -/
structure Settled (past : History) (table : TableState) : Prop where
  mem_keys_iff : ∀ id, id ∈ table.rows.map SessionRow.key ↔
    ∃ moment place, CameAt (snapshotsOf past) id moment place
  sorted : (table.rows.map SessionRow.key).Pairwise (CameBefore (snapshotsOf past))
  continues : ∀ snapshot now, Continues (table.rows.map SessionRow.key)
    ((table.applySnapshot snapshot now).1.rows.map SessionRow.key)
  alike : ∀ start interval past' table', Reach move? (.start start interval) past' table' →
    ComeAlike (snapshotsOf past) (snapshotsOf past') →
      table'.rows.map SessionRow.key = table.rows.map SessionRow.key

/-- The rows stand in the order in which their sessions came: behind all that were there already, and among
those that came with them as their first snapshot tells them. Nothing that a later snapshot tells of a session
that is there moves its row. -/
theorem never_reshuffled {start : Clock} {interval : Nat}
    (reach : Reach move? (.start start interval) past table) : Settled past table := by
  have ordered := inOrder_of_reach reach
  refine ⟨fun id => ?_, ordered.sorted, fun snapshot now => ?_, fun _ _ _ _ reach' alike => ?_⟩
  · rw [ordered.mem_keys_iff, present_iff_cameAt]
  · refine continues_of_append (keys_applySnapshot ordered.keys_nodup snapshot now) fun id member => ?_
    rw [List.mem_eraseDups, List.mem_filter] at member
    simpa using member.2
  · exact ordered.keys_of_alike (inOrder_of_reach reach') alike

/-- One session goes and comes back behind the others. The snapshots repeat ids and tell the sessions that stay
in ever another order. -/
theorem never_reshuffled_on_return :
    ∃ past table, Reach move? (.start ⟨0, 0⟩ 100) past table ∧
      (snapshotsOf past).map (List.map (·.id.text)) =
        [["c", "a", "c", "b"], ["b", "d", "c", "d"], ["e", "a", "d", "b", "c"]] ∧
      table.rows.map (·.key.text) = ["c", "b", "d", "e", "a"] ∧ Settled past table := by
  have reach : Reach move? (.start ⟨0, 0⟩ 100) _ _ :=
    .of_trail [
      .snapshot [.plain "c" .waiting 0, .plain "a" .waiting 0, .plain "c" .established 0,
        .plain "b" .waiting 0] ⟨0, 0⟩,
      .snapshot [.plain "b" .waiting 0, .plain "d" .waiting 0, .plain "c" .waiting 0,
        .plain "d" .waiting 9] ⟨50, 50⟩,
      .tick ⟨120, 120⟩,
      .snapshot [.plain "e" .waiting 0, .plain "a" .waiting 0, .plain "d" .waiting 0,
        .plain "b" .waiting 0, .plain "c" .waiting 7] ⟨200, 200⟩] rfl
  exact ⟨_, _, reach, by decide, by decide, never_reshuffled reach⟩

end TableState

end SessionBoard
