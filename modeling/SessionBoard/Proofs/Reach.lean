namespace SessionBoard

/-- A system comes from its first state to another one. The history holds every move on the way,
oldest first, with the state that it found. A move that `move?` refuses cannot be taken. -/
inductive Reach {σ μ : Type} (move? : σ → μ → Option σ) (first : σ) : List (σ × μ) → σ → Prop
  | start : Reach move? first [] first
  | next {past state move state'} : Reach move? first past state → move? state move = some state' →
      Reach move? first (past ++ [(state, move)]) state'

/-- What is read off a history move by move grows at its end. -/
theorem filterMap_next {τ υ : Type} (read? : τ → Option υ) (past : List τ) (moment : τ) :
    (past ++ [moment]).filterMap read? = past.filterMap read? ++ (read? moment).toList := by
  rw [List.filterMap_append]
  cases found : read? moment <;> simp [found]

/-- A history that goes on is cut at its last moment, or at one where it could be cut before. -/
theorem split_next {τ : Type} {past before later : List τ} {last moment : τ}
    (whole : past ++ [last] = before ++ moment :: later) :
    (past = before ∧ last = moment ∧ later = []) ∨
      ∃ shorter, later = shorter ++ [last] ∧ past = before ++ moment :: shorter := by
  rcases List.eq_nil_or_concat later with rfl | ⟨shorter, final, rfl⟩
  · obtain ⟨same, moments⟩ := List.append_inj' whole rfl
    exact .inl ⟨same, List.singleton_inj.mp moments, rfl⟩
  · rw [List.concat_eq_append, ← List.cons_append, ← List.append_assoc] at whole
    obtain ⟨same, moments⟩ := List.append_inj' whole rfl
    obtain rfl := List.singleton_inj.mp moments
    exact .inr ⟨shorter, List.concat_eq_append, same⟩

namespace Reach

variable {σ μ : Type} {move? : σ → μ → Option σ} {first last : σ}

/-- What holds at first and is kept by every move holds all the time. -/
theorem invariant {past : List (σ × μ)} (reach : Reach move? first past last) (kept : σ → Prop)
    (atFirst : kept first)
    (step : ∀ state move state', kept state → move? state move = some state' → kept state') :
    kept last := by
  induction reach with
  | start => exact atFirst
  | next _ taken ih => exact step _ _ _ ih taken

/-- Some state is passed where the history is cut. -/
theorem split {past later : List (σ × μ)} (reach : Reach move? first (past ++ later) last) :
    ∃ middle, Reach move? first past middle ∧ Reach move? middle later last := by
  generalize whole : past ++ later = history at reach
  induction reach generalizing later with
  | start =>
    obtain ⟨rfl, rfl⟩ := List.append_eq_nil_iff.mp whole
    exact ⟨first, .start, .start⟩
  | @next earlier state move state' previous taken ih =>
    rcases List.eq_nil_or_concat later with rfl | ⟨shorter, moment, rfl⟩
    · rw [List.append_nil] at whole
      subst whole
      exact ⟨state', .next previous taken, .start⟩
    · rw [List.concat_eq_append, ← List.append_assoc] at whole
      obtain ⟨same, rfl⟩ := List.append_inj' whole rfl |>.imp_right List.singleton_inj.mp
      obtain ⟨middle, before, after⟩ := ih same
      rw [List.concat_eq_append]
      exact ⟨middle, before, .next after taken⟩

/-- Every move of the history could be taken in the state that it found, and led on from there. -/
theorem moment {past later : List (σ × μ)} {state : σ} {move : μ}
    (reach : Reach move? first (past ++ (state, move) :: later) last) :
    ∃ state', Reach move? first past state ∧ move? state move = some state' ∧
      Reach move? state' later last := by
  rw [← List.singleton_append, ← List.append_assoc] at reach
  obtain ⟨state', before, after⟩ := reach.split
  generalize whole : past ++ [(state, move)] = history at before
  cases before with
  | start => simp at whole
  | next previous taken =>
    obtain ⟨rfl, same⟩ := List.append_inj' whole rfl
    cases List.singleton_inj.mp same
    exact ⟨state', previous, taken, after⟩

theorem moment_of_mem {past : List (σ × μ)} {state : σ} {move : μ} (reach : Reach move? first past last)
    (passed : (state, move) ∈ past) :
    ∃ before after state', past = before ++ (state, move) :: after ∧ Reach move? first before state ∧
      move? state move = some state' := by
  obtain ⟨before, after, rfl⟩ := List.append_of_mem passed
  obtain ⟨state', earlier, taken, _⟩ := reach.moment
  exact ⟨before, after, state', rfl, earlier, taken⟩

theorem append {past later : List (σ × μ)} {middle : σ} (before : Reach move? first past middle)
    (after : Reach move? middle later last) : Reach move? first (past ++ later) last := by
  induction after with
  | start =>
    rw [List.append_nil]
    exact before
  | next _ taken ih =>
    rw [← List.append_assoc]
    exact .next ih taken

/-- A history goes on from every state that it passes. -/
theorem since {past later : List (σ × μ)} {state : σ} {move : μ}
    (reach : Reach move? first (past ++ (state, move) :: later) last) :
    Reach move? first past state ∧ Reach move? state ((state, move) :: later) last := by
  obtain ⟨state', before, taken, after⟩ := reach.moment
  exact ⟨before, (Reach.start.next taken).append after⟩

/-- The history of some moves in turn and the state they lead to, unless one of them is refused. -/
def trail? (move? : σ → μ → Option σ) : List μ → σ → Option (List (σ × μ) × σ)
  | [], state => some ([], state)
  | move :: moves, state => do
    let (later, last) ← trail? move? moves (← move? state move)
    return ((state, move) :: later, last)

theorem of_trail (moves : List μ) {past : List (σ × μ)}
    (found : trail? move? moves first = some (past, last)) : Reach move? first past last := by
  induction moves generalizing first past with
  | nil =>
    cases found
    exact .start
  | cons move moves ih =>
    obtain ⟨second, taken, rest⟩ := Option.bind_eq_some_iff.mp found
    obtain ⟨⟨later, end_⟩, goes, same⟩ := Option.bind_eq_some_iff.mp rest
    cases same
    exact (Reach.start.next taken).append (ih goes)

theorem of_moves (moves : List μ) (taken : (trail? move? moves first).isSome) :
    Reach move? first ((trail? move? moves first).get taken).1 ((trail? move? moves first).get taken).2 :=
  .of_trail moves (Option.some_get taken).symm

end Reach

end SessionBoard
