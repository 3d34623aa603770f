import SessionBoard.Proofs.SingleFlight.Moves

namespace SessionBoard.SingleFlight

variable {σ α : Type} {flights flights' : SingleFlight σ α} {id settled : Nat}

/-- Executions settle in the order of their launch. The first `settled` ones have, the slot names the
others, and the second of these has to wait for the flight of the first. -/
structure Sequenced (flights : SingleFlight σ α) (settled : Nat) : Prop where
  prior : FirstReached Stage.isSettled flights.executions settled
  slot : (flights.executions.length = settled ∧ flights.slot = .idle) ∨
    (flights.executions.length = settled + 1 ∧ flights.slot = .pending settled) ∨
    (flights.executions.length = settled + 2 ∧ flights.slot = .queued settled (settled + 1) ∧
      flights.stage? (settled + 1) = some (.launched (some settled)))

theorem sequenced_start : ({} : SingleFlight σ α).Sequenced 0 where
  prior := .nil _
  slot := .inl ⟨rfl, rfl⟩

namespace Sequenced

theorem settled_iff (seq : flights.Sequenced settled) {stage : Stage σ α}
    (atId : flights.stage? id = some stage) : stage.isSettled ↔ id < settled :=
  seq.prior.iff atId

theorem length_le (seq : flights.Sequenced settled) :
    settled ≤ flights.executions.length ∧ flights.executions.length ≤ settled + 2 := by
  rcases seq.slot with ⟨length, _⟩ | ⟨length, _⟩ | ⟨length, _⟩ <;> omega

/-- A follow-up has not called its operation. -/
theorem followUp_launched (seq : flights.Sequenced settled) {stage : Stage σ α}
    (atId : flights.stage? (settled + 1) = some stage) : stage = .launched (some settled) := by
  have bound := stage?_lt atId
  rcases seq.slot with ⟨length, _⟩ | ⟨length, _⟩ | ⟨_, _, waiting⟩
  · omega
  · omega
  · exact Option.some.inj (atId.symm.trans waiting)

/-- Only the first execution that has not settled can have called its operation. -/
theorem eq_of_begun (seq : flights.Sequenced settled) {stage : Stage σ α}
    (atId : flights.stage? id = some stage) (begun : stage.hasBegun)
    (unsettled : stage.isSettled = false) : id = settled := by
  have bound := stage?_lt atId
  have lower : ¬id < settled := by
    rw [← seq.settled_iff atId, unsettled]
    exact Bool.false_ne_true
  have notLast : id ≠ settled + 1 := by
    rintro rfl
    rw [seq.followUp_launched atId] at begun
    cases begun
  have := seq.length_le
  omega

/-- A stage that is not the follow-up's may change as long as it settles nothing. -/
theorem withStage (seq : flights.Sequenced settled) {old new : Stage σ α}
    (atId : flights.stage? id = some old) (notLast : id ≠ settled + 1)
    (same : new.isSettled = old.isSettled) : (flights.withStage id new).Sequenced settled where
  prior := seq.prior.set_same atId same
  slot := by
    rw [length_withStage, slot_withStage, stage?_withStage atId, if_neg (Ne.symm notLast)]
    exact seq.slot

theorem trigger (seq : flights.Sequenced settled) : flights.trigger.1.Sequenced settled := by
  rcases seq.slot with ⟨length, slot⟩ | ⟨length, slot⟩ | ⟨_, slot, _⟩
  · simp only [SingleFlight.trigger, slot, length]
    exact ⟨seq.prior.append rfl, .inr (.inl ⟨by simp [length], rfl⟩)⟩
  · simp only [SingleFlight.trigger, slot, length]
    exact ⟨seq.prior.append rfl, .inr (.inr ⟨by simp [length], rfl, by simp [stage?, length]⟩)⟩
  · simpa only [SingleFlight.trigger, slot] using seq

/-- A request is answered by the execution that was launched last, which has not begun. -/
theorem trigger_launched (seq : flights.Sequenced settled) :
    (∃ after, flights.trigger.1.stage? flights.trigger.2 = some (.launched after)) ∧
      flights.trigger.1.executions.length = flights.trigger.2 + 1 := by
  rcases seq.slot with ⟨_, slot⟩ | ⟨_, slot⟩ | ⟨length, slot, waiting⟩
  · simp [SingleFlight.trigger, slot, stage?]
  · simp [SingleFlight.trigger, slot, stage?]
  · simp only [SingleFlight.trigger, slot]
    exact ⟨⟨_, waiting⟩, length⟩

/-- An operation is called by the first execution that has not settled: a follow-up would have to
find that one's flight resolved. -/
theorem eq_of_begin (seq : flights.Sequenced settled) {progress : σ}
    (run : flights.begin? id progress = some flights') : id = settled := by
  obtain ⟨after, atId, done, _⟩ := begin?_eq_some.mp run
  have bound := stage?_lt atId
  have lower : ¬id < settled := by simp [← seq.settled_iff atId, Stage.isSettled]
  have notLast : id ≠ settled + 1 := by
    rintro rfl
    cases seq.followUp_launched atId
    obtain ⟨outcome, resolved⟩ := done settled rfl
    exact Nat.lt_irrefl _ ((seq.settled_iff resolved).mp rfl)
  have := seq.length_le
  omega

theorem begin (seq : flights.Sequenced settled) {progress : σ}
    (run : flights.begin? id progress = some flights') : flights'.Sequenced settled := by
  have first := seq.eq_of_begin run
  obtain ⟨after, atId, _, rfl⟩ := begin?_eq_some.mp run
  exact seq.withStage atId (by omega) rfl

theorem report (seq : flights.Sequenced settled) {progress : σ}
    (run : flights.report? id progress = some flights') : flights'.Sequenced settled := by
  obtain ⟨⟨earlier, atId⟩, rfl⟩ := report?_eq_some.mp run
  have first := seq.eq_of_begun atId rfl rfl
  exact seq.withStage atId (by omega) rfl

theorem finish (seq : flights.Sequenced settled) {outcome : Option α}
    (run : flights.finish? id outcome = some flights') : flights'.Sequenced settled := by
  obtain ⟨⟨progress, atId⟩, rfl⟩ := finish?_eq_some.mp run
  have first := seq.eq_of_begun atId rfl rfl
  exact seq.withStage atId (by omega) rfl

theorem resolve (seq : flights.Sequenced settled) (run : flights.resolve? id = some flights') :
    flights'.Sequenced settled := by
  obtain ⟨outcome, atId, rfl⟩ := resolve?_eq_some.mp run
  have before := (seq.settled_iff atId).mp rfl
  exact seq.withStage atId (by omega) rfl

/-- The execution that settles is the first one that has not, and the slot names it as pending. -/
theorem settle_slot (seq : flights.Sequenced settled) (run : flights.settle? id = some flights') :
    id = settled ∧
      ((flights.slot = .pending id ∧ flights'.slot = .idle) ∨
        (flights.slot = .queued id (id + 1) ∧ flights'.slot = .pending (id + 1))) := by
  obtain ⟨outcome, atId, rfl⟩ := settle?_eq_some.mp run
  have first := seq.eq_of_begun atId rfl rfl
  have bound := stage?_lt atId
  subst first
  refine ⟨rfl, ?_⟩
  rcases seq.slot with ⟨length, _⟩ | ⟨_, slot⟩ | ⟨_, slot, _⟩
  · omega
  · exact .inl ⟨slot, by simp only [slot, Slot.settle, if_true]⟩
  · exact .inr ⟨slot, by simp only [slot, Slot.settle, if_true]⟩

theorem settle (seq : flights.Sequenced settled) (run : flights.settle? id = some flights') :
    flights'.Sequenced (settled + 1) := by
  obtain ⟨first, after⟩ := seq.settle_slot run
  obtain ⟨outcome, atId, rfl⟩ := settle?_eq_some.mp run
  subst first
  refine ⟨seq.prior.set_next (stage?_lt atId) rfl, ?_⟩
  · have length : (flights.withStage id (.settled outcome)).executions.length =
        flights.executions.length := length_withStage _
    rcases after with ⟨pending, idle⟩ | ⟨queued, pending⟩
    · rcases seq.slot with ⟨_, slot⟩ | ⟨count, _⟩ | ⟨_, slot, _⟩
      · simp_all
      · exact .inl ⟨length.trans count, idle⟩
      · simp_all
    · rcases seq.slot with ⟨_, slot⟩ | ⟨_, slot⟩ | ⟨count, _⟩
      · simp_all
      · simp_all
      · exact .inr (.inl ⟨length.trans count, pending⟩)

/-- Whatever the move, executions go on settling in the order of their launch. -/
theorem move {move : Move σ α} (seq : flights.Sequenced settled)
    (taken : flights.move? move = some flights') : ∃ settled', flights'.Sequenced settled' := by
  cases move with
  | trigger =>
    cases taken
    exact ⟨settled, seq.trigger⟩
  | begin id progress => exact ⟨settled, seq.begin taken⟩
  | report id progress => exact ⟨settled, seq.report taken⟩
  | finish id outcome => exact ⟨settled, seq.finish taken⟩
  | settle id => exact ⟨settled + 1, seq.settle taken⟩
  | resolve id => exact ⟨settled, seq.resolve taken⟩

end Sequenced

theorem Reachable.sequenced (reachable : flights.Reachable) : ∃ settled, flights.Sequenced settled := by
  obtain ⟨past, reach⟩ := reachable
  refine reach.invariant (fun flights => ∃ settled, flights.Sequenced settled) ⟨0, sequenced_start⟩ ?_
  intro flights move flights' ⟨settled, seq⟩ taken
  exact seq.move taken

/-- The execution has been launched and the slot does not know of its end. -/
def Unsettled (flights : SingleFlight σ α) (id : Nat) : Prop :=
  ∃ stage, flights.stage? id = some stage ∧ stage.isSettled = false

/-- The execution has called its operation. -/
def Begun (flights : SingleFlight σ α) (id : Nat) : Prop :=
  ∃ stage, flights.stage? id = some stage ∧ stage.hasBegun

/-- What the slot says and the stages of the executions agree, and the executions exclude each other
between the call of the operation and the settling. Of two executions that have not settled the
follow-up is the one that was launched later; while neither has begun nothing else tells them apart. -/
structure SlotAccurate (flights : SingleFlight σ α) : Prop where
  exclusive : ∀ i j, flights.Begun i → flights.Unsettled i → flights.Begun j → flights.Unsettled j → i = j
  idle_iff : flights.slot = .idle ↔ ∀ id, ¬flights.Unsettled id
  pending_iff : ∀ id, flights.slot = .pending id ↔ ∀ other, flights.Unsettled other ↔ other = id
  queued_iff : ∀ id followUp, flights.slot = .queued id followUp ↔
    id < followUp ∧ (∀ other, flights.Unsettled other ↔ other = id ∨ other = followUp) ∧
      ¬flights.Begun followUp
  /-- Whatever settles is in the pending position, so it never leaves the slot as it was. -/
  settle_pending : ∀ id flights', flights.settle? id = some flights' →
    (flights.slot = .pending id ∧ flights'.slot = .idle) ∨
      ∃ followUp, flights.slot = .queued id followUp ∧ flights'.slot = .pending followUp

namespace Sequenced

theorem unsettled_iff (seq : flights.Sequenced settled) :
    flights.Unsettled id ↔ settled ≤ id ∧ id < flights.executions.length := by
  constructor
  · rintro ⟨stage, atId, unsettled⟩
    have later : ¬id < settled := by simp [← seq.settled_iff atId, unsettled]
    exact ⟨Nat.not_lt.mp later, stage?_lt atId⟩
  · rintro ⟨later, bound⟩
    have atId : flights.stage? id = some flights.executions[id] := List.getElem?_eq_getElem bound
    refine ⟨_, atId, ?_⟩
    rw [← Bool.not_eq_true, seq.settled_iff atId]
    exact Nat.not_lt.mpr later

theorem eq_of_executing (seq : flights.Sequenced settled) (begun : flights.Begun id)
    (unsettled : flights.Unsettled id) : id = settled := by
  obtain ⟨stage, atId, begun⟩ := begun
  obtain ⟨same, atSame, unsettled⟩ := unsettled
  cases Option.some.inj (atId.symm.trans atSame)
  exact seq.eq_of_begun atId begun unsettled

theorem idle_iff (seq : flights.Sequenced settled) :
    flights.slot = .idle ↔ ∀ id, ¬flights.Unsettled id := by
  simp only [seq.unsettled_iff]
  rcases seq.slot with ⟨length, slot⟩ | ⟨length, slot⟩ | ⟨length, slot, _⟩
  · simp only [slot, true_iff]
    intro id
    omega
  · simp only [slot, reduceCtorEq, false_iff]
    exact fun none => none settled (by omega)
  · simp only [slot, reduceCtorEq, false_iff]
    exact fun none => none settled (by omega)

theorem pending_iff (seq : flights.Sequenced settled) :
    flights.slot = .pending id ↔ ∀ other, flights.Unsettled other ↔ other = id := by
  simp only [seq.unsettled_iff]
  rcases seq.slot with ⟨length, slot⟩ | ⟨length, slot⟩ | ⟨length, slot, _⟩
  · simp only [slot, reduceCtorEq, false_iff]
    intro only
    have := (only id).mpr rfl
    omega
  · simp only [slot, Slot.pending.injEq]
    constructor
    · rintro rfl other
      omega
    · intro only
      exact (only settled).mp (by omega)
  · simp only [slot, reduceCtorEq, false_iff]
    intro only
    have first := (only settled).mp (by omega)
    have second := (only (settled + 1)).mp (by omega)
    omega

theorem queued_iff (seq : flights.Sequenced settled) {followUp : Nat} :
    flights.slot = .queued id followUp ↔
      id < followUp ∧ (∀ other, flights.Unsettled other ↔ other = id ∨ other = followUp) ∧
        ¬flights.Begun followUp := by
  simp only [seq.unsettled_iff]
  constructor
  · intro queued
    rcases seq.slot with ⟨_, slot⟩ | ⟨_, slot⟩ | ⟨length, slot, waiting⟩
    · rw [queued] at slot
      cases slot
    · rw [queued] at slot
      cases slot
    · rw [queued] at slot
      cases slot
      refine ⟨Nat.lt_succ_self _, fun other => by omega, ?_⟩
      rintro ⟨stage, atId, begun⟩
      cases Option.some.inj (waiting.symm.trans atId)
      cases begun
  · rintro ⟨order, only, _⟩
    have first := (only id).mpr (.inl rfl)
    have second := (only followUp).mpr (.inr rfl)
    rcases seq.slot with ⟨length, _⟩ | ⟨length, _⟩ | ⟨length, slot, _⟩
    · omega
    · omega
    · rw [slot]
      congr <;> omega

end Sequenced

/-- Every reachable single flight runs at most one operation at a time, its slot names exactly what has not
settled, and whatever settles is found in the pending position, whatever order the requests and the steps of the
executions come in. -/
theorem slot_accurate (reachable : flights.Reachable) : flights.SlotAccurate := by
  obtain ⟨settled, seq⟩ := reachable.sequenced
  refine ⟨?_, seq.idle_iff, fun _ => seq.pending_iff, fun _ _ => seq.queued_iff, ?_⟩
  · intro i j begunI unsettledI begunJ unsettledJ
    rw [seq.eq_of_executing begunI unsettledI, seq.eq_of_executing begunJ unsettledJ]
  · intro id flights' run
    obtain ⟨_, single | queued⟩ := seq.settle_slot run
    · exact .inl single
    · exact .inr ⟨id + 1, queued⟩

/-- A panic under a queued follow-up: the slot has moved on to the follow-up, which still waits. -/
theorem slot_accurate_after_panic :
    ∃ flights : SingleFlight Unit Int, flights.Reachable ∧
      flights.executions = [.settled none, .launched (some 0)] ∧ flights.slot = .pending 1 ∧
      flights.SlotAccurate := by
  have reachable : Reachable (⟨.pending 1, [.settled none, .launched (some 0)]⟩ : SingleFlight Unit Int) :=
    ⟨_, .of_trail [.trigger, .begin 0 (), .trigger, .finish 0 none, .settle 0] rfl⟩
  exact ⟨_, reachable, rfl, rfl, slot_accurate reachable⟩

end SessionBoard.SingleFlight
