import SessionBoard.Checked

namespace SessionBoard

/-- No bound is broken. -/
def Checked.Answers {α : Type} (attempt : Checked α) : Prop :=
  ∃ answer, attempt = .ok answer

namespace Checked

variable {α β : Type}

theorem Answers.ok (answer : α) : Answers (.ok answer) :=
  ⟨answer, rfl⟩

theorem Answers.bind {attempt : Checked α} {next : α → Checked β} (first : attempt.Answers)
    (later : ∀ answer, attempt = .ok answer → (next answer).Answers) : (attempt >>= next).Answers := by
  obtain ⟨answer, found⟩ := first
  obtain ⟨result, rest⟩ := later answer found
  exact ⟨result, by rw [found]; exact rest⟩

theorem Answers.mapM {f : α → Checked β} {items : List α}
    (each : ∀ item ∈ items, (f item).Answers) : (items.mapM f).Answers := by
  induction items with
  | nil => exact .ok []
  | cons item items ih =>
    rw [List.mapM_cons]
    refine .bind (each item (by simp)) fun result _ => ?_
    refine .bind (ih fun other member => each other (by simp [member])) fun results _ => ?_
    exact .ok (result :: results)

@[simp]
theorem ok_bind (answer : α) (next : α → Checked β) : (.ok answer : Checked α) >>= next = next answer := rfl

theorem bind_eq_ok {attempt : Checked α} {next : α → Checked β} {result : β} :
    (attempt >>= next) = .ok result ↔ ∃ answer, attempt = .ok answer ∧ next answer = .ok result := by
  cases attempt with
  | error breach => simp [bind, Except.bind]
  | ok answer => simp [bind, Except.bind]

theorem mapM_eq_ok {f : α → Checked β} {g : α → β} {items : List α}
    (each : ∀ item ∈ items, f item = .ok (g item)) : items.mapM f = .ok (items.map g) := by
  induction items with
  | nil => rfl
  | cons item items ih =>
    obtain ⟨first, rest⟩ := List.forall_mem_cons.mp each
    rw [List.mapM_cons, first, ih rest]
    rfl

theorem toOption_eq_some {attempt : Checked α} {result : α} :
    attempt.toOption = some result ↔ attempt = .ok result := by
  cases attempt <;> simp [Except.toOption]

theorem sub_eq_ok {a b difference : Nat} :
    Checked.sub a b = .ok difference ↔ b ≤ a ∧ difference = a - b := by
  unfold Checked.sub
  split <;> simp [*, eq_comm]

theorem get_eq_ok {items : List α} {index : Nat} {item : α} :
    Checked.get items index = .ok item ↔ items[index]? = some item := by
  unfold Checked.get
  cases items[index]? <;> simp

theorem get_answers {items : List α} {index : Nat} (bound : index < items.length) :
    (Checked.get items index).Answers :=
  ⟨items[index], get_eq_ok.mpr (List.getElem?_eq_getElem bound)⟩

end Checked

end SessionBoard
