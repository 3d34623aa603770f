import SessionBoard.Proofs.Reach
import SessionBoard.SingleFlight

namespace SessionBoard

/-- Exactly the first `count` items have come this far. -/
structure FirstReached {τ : Type} (far : τ → Bool) (items : List τ) (count : Nat) : Prop where
  iff : ∀ {index : Nat} {item : τ}, items[index]? = some item → (far item ↔ index < count)
  le : count ≤ items.length

namespace FirstReached

variable {τ : Type} {far : τ → Bool} {items : List τ} {count index : Nat} {old new : τ}

theorem nil (far : τ → Bool) : FirstReached far [] 0 where
  iff := by simp
  le := Nat.le_refl 0

theorem append (first : FirstReached far items count) (notFar : far new = false) :
    FirstReached far (items ++ [new]) count where
  iff := by
    intro index item atIndex
    have bound := first.le
    rw [List.getElem?_append] at atIndex
    split at atIndex
    · exact first.iff atIndex
    · obtain ⟨_, rfl⟩ := List.getElem?_eq_some_iff.mp atIndex
      simp only [List.getElem_singleton, notFar, Bool.false_eq_true, false_iff]
      omega
  le := by
    have bound := first.le
    simp only [List.length_append]
    omega

/-- A change that brings no item further. -/
theorem set_same (first : FirstReached far items count) (atIndex : items[index]? = some old)
    (same : far new = far old) : FirstReached far (items.set index new) count where
  iff := by
    intro other item atOther
    rw [List.getElem?_set] at atOther
    split at atOther
    · rename_i equal
      subst equal
      split at atOther
      · cases atOther
        rw [same]
        exact first.iff atIndex
      · cases atOther
    · exact first.iff atOther
  le := by
    rw [List.length_set]
    exact first.le

/-- The next item in turn has come this far as well. -/
theorem set_next (first : FirstReached far items count) (within : count < items.length)
    (now : far new = true) : FirstReached far (items.set count new) (count + 1) where
  iff := by
    intro other item atOther
    rw [List.getElem?_set] at atOther
    split at atOther
    · rename_i equal
      subst equal
      cases atOther
      simp [now]
    · rename_i different
      rw [first.iff atOther]
      omega
  le := by
    rw [List.length_set]
    exact within

/-- Fewer items have come further. -/
theorem le_of_imp {further : τ → Bool} {count' : Nat} (first : FirstReached far items count)
    (second : FirstReached further items count') (imp : ∀ item, further item → far item) :
    count' ≤ count := by
  rw [← Nat.not_lt]
  intro less
  have within : count < items.length := Nat.lt_of_lt_of_le less second.le
  have atCount := List.getElem?_eq_getElem within
  have ahead : further items[count] := (second.iff atCount).mpr less
  exact Nat.lt_irrefl _ ((first.iff atCount).mp (imp _ ahead))

end FirstReached

namespace Stage

variable {σ α : Type}

/-- The operation has been called. -/
def hasBegun : Stage σ α → Bool
  | .launched _ => false
  | .running _ | .returned _ | .settled _ | .resolved _ => true

/-- The slot knows that the operation has ended. -/
def isSettled : Stage σ α → Bool
  | .launched _ | .running _ | .returned _ => false
  | .settled _ | .resolved _ => true

/-- What the operation came to, once it has ended. -/
def ending? : Stage σ α → Option (Option α)
  | .launched _ | .running _ => none
  | .returned outcome | .settled outcome | .resolved outcome => some outcome

theorem hasBegun_of_isSettled {stage : Stage σ α} (settled : stage.isSettled) : stage.hasBegun := by
  cases stage <;> simp_all [isSettled, hasBegun]

theorem ending_of_isSettled {stage : Stage σ α} (settled : stage.isSettled) :
    stage.ending?.isSome := by
  cases stage <;> simp_all [isSettled, ending?]

theorem hasBegun_of_ending {stage : Stage σ α} (ended : stage.ending?.isSome) : stage.hasBegun := by
  cases stage <;> simp_all [ending?, hasBegun]

end Stage

namespace SingleFlight

variable {σ α : Type} {flights flights' : SingleFlight σ α} {id : Nat}

/-- The moves of a single flight. A request and every step of every execution is a move of its own, so moves of
several callers and executions come in any order. -/
inductive Move (σ α : Type)
  /-- Somebody requests an execution. -/
  | trigger
  | begin (id : Nat) (progress : σ)
  | report (id : Nat) (progress : σ)
  /-- The operation completes, or panics when there is no outcome. -/
  | finish (id : Nat) (outcome : Option α)
  | settle (id : Nat)
  | resolve (id : Nat)

def move? (flights : SingleFlight σ α) : Move σ α → Option (SingleFlight σ α)
  | .trigger => some flights.trigger.1
  | .begin id progress => flights.begin? id progress
  | .report id progress => flights.report? id progress
  | .finish id outcome => flights.finish? id outcome
  | .settle id => flights.settle? id
  | .resolve id => flights.resolve? id

/-- Some order of moves leads here from the start. -/
def Reachable (flights : SingleFlight σ α) : Prop :=
  ∃ past, Reach move? {} past flights

theorem Reachable.next (reachable : flights.Reachable) (move : Move σ α)
    (taken : flights.move? move = some flights') : flights'.Reachable := by
  obtain ⟨past, reach⟩ := reachable
  exact ⟨_, reach.next taken⟩

theorem stage?_lt {stage : Stage σ α} (atId : flights.stage? id = some stage) :
    id < flights.executions.length :=
  (List.getElem?_eq_some_iff.mp atId).1

theorem stage?_withStage {old new : Stage σ α} (atId : flights.stage? id = some old) (other : Nat) :
    (flights.withStage id new).stage? other = if other = id then some new else flights.stage? other := by
  have bound := stage?_lt atId
  simp only [stage?, withStage, List.getElem?_set, eq_comm (a := id), bound, if_true]

theorem stage?_withStage_self {old : Stage σ α} (atId : flights.stage? id = some old) (new : Stage σ α) :
    (flights.withStage id new).stage? id = some new := by
  rw [stage?_withStage atId, if_pos rfl]

@[simp] theorem length_withStage (stage : Stage σ α) :
    (flights.withStage id stage).executions.length = flights.executions.length := by
  simp only [withStage, List.length_set]

@[simp] theorem slot_withStage (stage : Stage σ α) : (flights.withStage id stage).slot = flights.slot :=
  rfl

/-- A request launches at most one execution, and none that was there changes. -/
theorem trigger_executions (flights : SingleFlight σ α) :
    flights.trigger.1.executions = flights.executions ∨
      ∃ after, flights.trigger.1.executions = flights.executions ++ [.launched after] := by
  unfold trigger
  split
  · exact .inr ⟨none, rfl⟩
  · rename_i current _
    exact .inr ⟨some current, rfl⟩
  · exact .inl rfl

theorem outcome?_eq_some {outcome : Option α} :
    flights.outcome? id = some outcome ↔ flights.stage? id = some (.resolved outcome) := by
  unfold outcome?
  split <;> simp_all

theorem begin?_eq_some {progress : σ} :
    flights.begin? id progress = some flights' ↔
      ∃ after, flights.stage? id = some (.launched after) ∧
        (∀ before, after = some before → ∃ outcome, flights.stage? before = some (.resolved outcome)) ∧
        flights' = flights.withStage id (.running progress) := by
  constructor
  · intro run
    unfold begin? at run
    split at run
    · rename_i atId
      cases run
      exact ⟨none, atId, by simp, rfl⟩
    · rename_i before atId
      split at run
      · rename_i done
        obtain ⟨outcome, done⟩ := Option.isSome_iff_exists.mp done
        cases run
        refine ⟨some before, atId, ?_, rfl⟩
        rintro _ ⟨⟩
        exact ⟨outcome, outcome?_eq_some.mp done⟩
      · cases run
    · cases run
  · rintro ⟨after, atId, done, rfl⟩
    cases after with
    | none => simp only [begin?, atId]
    | some before =>
      obtain ⟨outcome, atBefore⟩ := done before rfl
      simp only [begin?, atId, outcome?_eq_some.mpr atBefore, Option.isSome_some, if_true]

theorem report?_eq_some {progress : σ} :
    flights.report? id progress = some flights' ↔
      (∃ earlier, flights.stage? id = some (.running earlier)) ∧
        flights' = flights.withStage id (.running progress) := by
  unfold report?
  split <;> simp_all [eq_comm]

theorem finish?_eq_some {outcome : Option α} :
    flights.finish? id outcome = some flights' ↔
      (∃ progress, flights.stage? id = some (.running progress)) ∧
        flights' = flights.withStage id (.returned outcome) := by
  unfold finish?
  split <;> simp_all [eq_comm]

theorem settle?_eq_some :
    flights.settle? id = some flights' ↔
      ∃ outcome, flights.stage? id = some (.returned outcome) ∧
        flights' = { flights.withStage id (.settled outcome) with slot := flights.slot.settle id } := by
  unfold settle?
  split <;> simp_all [eq_comm]

theorem resolve?_eq_some :
    flights.resolve? id = some flights' ↔
      ∃ outcome, flights.stage? id = some (.settled outcome) ∧
        flights' = flights.withStage id (.resolved outcome) := by
  unfold resolve?
  split <;> simp_all [eq_comm]

/-- The steps after an operation has ended. -/
theorem unwind?_eq_some :
    flights.unwind? id = some flights' ↔
      (∃ outcome, flights.stage? id = some (.returned outcome) ∧
        flights' = { flights.withStage id (.settled outcome) with slot := flights.slot.settle id }) ∨
      ∃ outcome, flights.stage? id = some (.settled outcome) ∧
        flights' = flights.withStage id (.resolved outcome) := by
  rw [← settle?_eq_some, ← resolve?_eq_some]
  unfold unwind? settle? resolve?
  split <;> simp_all

/-- Only a request launches an execution. -/
theorem length_eq_of_move {move : Move σ α} (taken : flights.move? move = some flights')
    (noRequest : move ≠ .trigger) : flights'.executions.length = flights.executions.length := by
  cases move with
  | trigger => exact absurd rfl noRequest
  | begin id progress =>
    obtain ⟨_, _, _, rfl⟩ := begin?_eq_some.mp taken
    exact length_withStage _
  | report id progress =>
    obtain ⟨_, rfl⟩ := report?_eq_some.mp taken
    exact length_withStage _
  | finish id outcome =>
    obtain ⟨_, rfl⟩ := finish?_eq_some.mp taken
    exact length_withStage _
  | settle id =>
    obtain ⟨_, _, rfl⟩ := settle?_eq_some.mp taken
    exact length_withStage _
  | resolve id =>
    obtain ⟨_, _, rfl⟩ := resolve?_eq_some.mp taken
    exact length_withStage _

/-- A request leaves every operation that is under way where it is. -/
theorem running_of_trigger {progress : σ}
    (running : flights.trigger.1.stage? id = some (.running progress)) :
    flights.stage? id = some (.running progress) := by
  rcases flights.trigger_executions with same | ⟨after, grown⟩
  · rwa [stage?, same] at running
  · rw [stage?, grown, List.getElem?_append] at running
    split at running
    · exact running
    · simp [List.getElem?_singleton] at running

/-- An operation comes this far by being called, by reporting so, or not by this move at all. -/
theorem running_of_move {move : Move σ α} {progress : σ} (taken : flights.move? move = some flights')
    (running : flights'.stage? id = some (.running progress)) :
    move = .begin id progress ∨ move = .report id progress ∨
      flights.stage? id = some (.running progress) ∧ ∀ reached, move ≠ .report id reached := by
  have kept : ∀ {other old new}, flights.stage? other = some old →
      (flights.withStage other new).stage? id = some (.running progress) →
        id = other ∧ new = .running progress ∨
          flights.stage? id = some (.running progress) ∧ id ≠ other := by
    intro other old new atOther now
    rw [stage?_withStage atOther] at now
    split at now
    · exact .inl ⟨by assumption, Option.some.inj now⟩
    · exact .inr ⟨now, by assumption⟩
  cases move with
  | trigger =>
    cases taken
    exact .inr (.inr ⟨running_of_trigger running, nofun⟩)
  | begin other reached =>
    obtain ⟨_, atOther, _, rfl⟩ := begin?_eq_some.mp taken
    rcases kept atOther running with ⟨rfl, same⟩ | ⟨before, _⟩
    · cases same
      exact .inl rfl
    · exact .inr (.inr ⟨before, nofun⟩)
  | report other reached =>
    obtain ⟨⟨_, atOther⟩, rfl⟩ := report?_eq_some.mp taken
    rcases kept atOther running with ⟨rfl, same⟩ | ⟨before, different⟩
    · cases same
      exact .inr (.inl rfl)
    · exact .inr (.inr ⟨before, by simp [Ne.symm different]⟩)
  | finish other outcome =>
    obtain ⟨⟨_, atOther⟩, rfl⟩ := finish?_eq_some.mp taken
    rcases kept atOther running with ⟨_, ⟨⟩⟩ | ⟨before, _⟩
    exact .inr (.inr ⟨before, nofun⟩)
  | settle other =>
    obtain ⟨_, atOther, rfl⟩ := settle?_eq_some.mp taken
    rcases kept atOther running with ⟨_, ⟨⟩⟩ | ⟨before, _⟩
    exact .inr (.inr ⟨before, nofun⟩)
  | resolve other =>
    obtain ⟨_, atOther, rfl⟩ := resolve?_eq_some.mp taken
    rcases kept atOther running with ⟨_, ⟨⟩⟩ | ⟨before, _⟩
    exact .inr (.inr ⟨before, nofun⟩)

end SingleFlight

end SessionBoard
