import SessionBoard.Proofs.SingleFlight.Exclusion

namespace SessionBoard.SingleFlight

variable {σ α : Type} {flights flights' : SingleFlight σ α} {id : Nat}

/-- Whatever is no request moves one execution on, and never back to where it has not begun. -/
theorem executions_of_move {move : Move σ α} (taken : flights.move? move = some flights')
    (noRequest : move ≠ .trigger) :
    ∃ id stage, flights'.executions = flights.executions.set id stage ∧ stage.hasBegun := by
  cases move with
  | trigger => exact absurd rfl noRequest
  | begin id progress =>
    obtain ⟨_, _, _, rfl⟩ := begin?_eq_some.mp taken
    exact ⟨id, _, rfl, rfl⟩
  | report id progress =>
    obtain ⟨_, rfl⟩ := report?_eq_some.mp taken
    exact ⟨id, _, rfl, rfl⟩
  | finish id outcome =>
    obtain ⟨_, rfl⟩ := finish?_eq_some.mp taken
    exact ⟨id, _, rfl, rfl⟩
  | settle id =>
    obtain ⟨_, _, rfl⟩ := settle?_eq_some.mp taken
    exact ⟨id, _, rfl, rfl⟩
  | resolve id =>
    obtain ⟨_, _, rfl⟩ := resolve?_eq_some.mp taken
    exact ⟨id, _, rfl, rfl⟩

/-- An execution that has not begun was left as it is. -/
theorem launched_of_move {move : Move σ α} {after : Option Nat} (taken : flights.move? move = some flights')
    (noRequest : move ≠ .trigger) (launched : flights'.stage? id = some (.launched after)) :
    flights.stage? id = some (.launched after) := by
  obtain ⟨other, stage, same, begun⟩ := executions_of_move taken noRequest
  rw [stage?, same, List.getElem?_set] at launched
  split at launched
  · split at launched
    · cases launched
      cases begun
    · cases launched
  · exact launched

/-- The execution that is next in turn is launched to come after the pending one. -/
theorem Sequenced.launched_of_trigger {settled : Nat} {after : Option Nat} (seq : flights.Sequenced settled)
    (launched : flights.trigger.1.stage? id = some (.launched after)) :
    flights.stage? id = some (.launched after) ∨ ∀ before, after = some before → id = before + 1 := by
  have grown : ∀ {ahead : Option Nat} {slot : Slot},
      stage? ⟨slot, flights.executions ++ [.launched ahead]⟩ id = some (.launched after) →
        flights.stage? id = some (.launched after) ∨ after = ahead ∧ id = flights.executions.length := by
    intro ahead slot atId
    rw [stage?, List.getElem?_append] at atId
    split at atId
    · exact .inl atId
    · rw [List.getElem?_singleton] at atId
      split at atId
      · cases atId
        exact .inr ⟨rfl, by omega⟩
      · cases atId
  rw [trigger.eq_def] at launched
  rcases seq.slot with ⟨length, slot⟩ | ⟨length, slot⟩ | ⟨_, slot, _⟩
  · rw [slot] at launched
    rcases grown launched with already | ⟨rfl, _⟩
    · exact .inl already
    · exact .inr (by simp)
  · rw [slot] at launched
    rcases grown launched with already | ⟨rfl, last⟩
    · exact .inl already
    · refine .inr ?_
      rintro _ ⟨⟩
      exact last.trans length
  · rw [slot] at launched
    exact .inl launched

/-- An execution comes after the one that was launched just before it. -/
theorem Reachable.eq_of_launched (reachable : flights.Reachable) {before : Nat}
    (launched : flights.stage? id = some (.launched (some before))) : id = before + 1 := by
  obtain ⟨past, reach⟩ := reachable
  induction reach with
  | start => simp [stage?] at launched
  | @next past flights move flights' earlier taken ih =>
    by_cases request : move = .trigger
    · subst request
      cases taken
      obtain ⟨settled, seq⟩ := Reachable.sequenced ⟨past, earlier⟩
      rcases seq.launched_of_trigger launched with already | next
      · exact ih already
      · exact next before rfl
    · exact ih (launched_of_move taken request launched)

/-- No execution can go on by itself: its operation is under way, or another one has to resolve first. -/
structure AtRest (flights : SingleFlight σ α) : Prop where
  unwound : ∀ id, flights.unwind? id = none
  waiting : ∀ id after, flights.stage? id = some (.launched after) →
    ∃ before, after = some before ∧ flights.outcome? before = none

/-- What there is to be waited for. Either all flights have their outcome, or one operation is under way and
everybody waits for it; no flight is ever left without an outcome for want of an operation. -/
inductive Resting (flights : SingleFlight σ α) : Prop
  | idle (slot : flights.slot = .idle)
      (resolved : ∀ id, id < flights.executions.length → (flights.outcome? id).isSome)
  /-- One operation is under way, and no more than one execution waits for it to resolve. -/
  | busy {current : Nat} {progress : σ} (running : flights.stage? current = some (.running progress))
      (resolved : ∀ id, id < current → (flights.outcome? id).isSome)
      (waiting : ∀ id, current < id → id < flights.executions.length →
        id = current + 1 ∧ flights.stage? id = some (.launched (some current)))

/-- An execution that cannot begin waits for another one to resolve. -/
theorem waiting_of_begin? {progress : σ} {after : Option Nat}
    (waits : ∀ flights', flights.begin? id progress ≠ some flights')
    (launched : flights.stage? id = some (.launched after)) :
    ∃ before, after = some before ∧ flights.outcome? before = none := by
  cases after with
  | none => exact absurd (begin?_eq_some.mpr ⟨none, launched, nofun, rfl⟩) (waits _)
  | some before =>
    refine ⟨before, rfl, ?_⟩
    simpa [begin?, launched] using waits

namespace AtRest

variable {settled : Nat} (rest : flights.AtRest)

include rest

/-- The slot never knows of an end that the flight does not tell. -/
theorem resolved_of_settled {stage : Stage σ α} (atId : flights.stage? id = some stage)
    (known : stage.isSettled) : (flights.outcome? id).isSome := by
  cases stage with
  | launched | running | returned => cases known
  | settled outcome =>
    have goesOn := unwind?_eq_some.mpr (.inr ⟨outcome, atId, rfl⟩)
    cases (rest.unwound id).symm.trans goesOn
  | resolved outcome => rw [outcome?_eq_some.mpr atId, Option.isSome_some]

theorem resolved_of_lt (seq : flights.Sequenced settled) (earlier : id < settled) :
    (flights.outcome? id).isSome := by
  have atId := List.getElem?_eq_getElem (Nat.lt_of_lt_of_le earlier seq.length_le.1)
  exact rest.resolved_of_settled atId ((seq.settled_iff atId).mpr earlier)

/-- The first execution that has not settled is under way. -/
theorem running (reachable : flights.Reachable) (seq : flights.Sequenced settled)
    (within : settled < flights.executions.length) :
    ∃ progress, flights.stage? settled = some (.running progress) := by
  obtain ⟨stage, atId⟩ : ∃ stage, flights.stage? settled = some stage :=
    ⟨_, List.getElem?_eq_getElem within⟩
  have unsettled : ¬stage.isSettled := by
    rw [seq.settled_iff atId]
    exact Nat.lt_irrefl _
  cases stage with
  | running progress => exact ⟨progress, atId⟩
  | returned outcome =>
    have goesOn := unwind?_eq_some.mpr (.inl ⟨outcome, atId, rfl⟩)
    cases (rest.unwound settled).symm.trans goesOn
  | settled | resolved => exact absurd rfl unsettled
  | launched after =>
    -- Whatever it comes after was launched before it and has resolved.
    obtain ⟨before, rfl, unresolved⟩ := rest.waiting settled after atId
    have ahead := reachable.eq_of_launched atId
    have first : before < settled := by omega
    have resolved := rest.resolved_of_lt seq first
    rw [unresolved] at resolved
    cases resolved

end AtRest

/-- Either there is nothing to wait for, or an operation is under way that everybody waits for. -/
theorem AtRest.resting (rest : flights.AtRest) (reachable : flights.Reachable) : flights.Resting := by
  obtain ⟨settled, seq⟩ := reachable.sequenced
  have resolved : ∀ id, id < settled → (flights.outcome? id).isSome := fun _ => rest.resolved_of_lt seq
  rcases seq.slot with ⟨length, slot⟩ | ⟨length, slot⟩ | ⟨length, slot, followUp⟩
  · exact .idle slot (length ▸ resolved)
  · obtain ⟨progress, running⟩ := rest.running reachable seq (by omega)
    exact .busy running resolved fun id later within => by omega
  · obtain ⟨progress, running⟩ := rest.running reachable seq (by omega)
    refine .busy running resolved fun id later within => ?_
    have last : id = settled + 1 := by omega
    exact ⟨last, last ▸ followUp⟩

end SessionBoard.SingleFlight
