import SessionBoard.Uptime

namespace SessionBoard

namespace Uptime

/-- Groups are filled up to the number asked for. -/
theorem le_length_paddedGroups (seconds atLeast : Nat) :
    atLeast ≤ (paddedGroups seconds atLeast).length := by
  unfold paddedGroups
  split
  · rename_i empty
    cases empty
  · rename_i first rest _
    dsimp only
    split
    · rw [List.length_cons]
      omega
    · simp only [List.length_cons, List.length_append, List.length_replicate]
      omega

/-- Groups of which none is reported as changed are the same, unless some have gone. -/
theorem eq_of_changedFrom_eq_nil {index : Nat} {old new : List (List Char)}
    (unchanged : changedFrom index old new = []) (longer : old.length ≤ new.length) : new = old := by
  induction new generalizing index old with
  | nil => exact (List.length_eq_zero_iff.mp (Nat.le_zero.mp longer)).symm
  | cons group groups ih =>
    cases old with
    | nil => cases unchanged
    | cons earlier earliers =>
      unfold changedFrom at unchanged
      split at unchanged
      · rename_i same
        rw [same, ih unchanged (Nat.le_of_succ_le_succ longer)]
      · cases unchanged

theorem changedFrom_self (index : Nat) (groups : List (List Char)) : changedFrom index groups groups = [] := by
  induction groups generalizing index with
  | nil => rfl
  | cons group groups ih => rw [changedFrom, if_pos rfl, ih]

/-- There is at least one group, and each of them has at least one digit. -/
structure Grouped (groups : List (List Char)) : Prop where
  ne_nil : groups ≠ []
  digits : ∀ group ∈ groups, group ≠ [] ∧ ∀ char ∈ group, char.isDigit

theorem of_mem_triples {digits group : List Char} (member : group ∈ triples digits) :
    group ≠ [] ∧ group ⊆ digits := by
  fun_induction triples digits with
  | case1 a b c rest ih =>
    rcases List.mem_cons.mp member with rfl | later
    · exact ⟨List.cons_ne_nil _ _, (List.prefix_append [a, b, c] rest).subset⟩
    · obtain ⟨some_digit, subset⟩ := ih later
      exact ⟨some_digit, fun char own => (List.suffix_append [a, b, c] rest).subset (subset own)⟩
  | case2 => cases member

theorem grouped_digitGroups (seconds : Nat) : Grouped (digitGroups seconds) := by
  have digit : ∀ char ∈ Nat.toDigits 10 seconds, char.isDigit := fun char member =>
    Nat.isDigit_of_mem_toDigits (by decide) (by decide) member
  refine ⟨List.cons_ne_nil _ _, List.forall_mem_cons.mpr ⟨⟨?_, ?_⟩, fun group later => ?_⟩⟩
  · simp
  · exact fun char member => digit char (List.mem_of_mem_take member)
  · obtain ⟨nonempty, subset⟩ := of_mem_triples later
    exact ⟨nonempty, fun char member => digit char (List.mem_of_mem_drop (subset member))⟩

/-- What is filled up stays a group of digits. -/
theorem digits_padGroup {group : List Char} (digits : group ≠ [] ∧ ∀ char ∈ group, char.isDigit) :
    padGroup group ≠ [] ∧ ∀ char ∈ padGroup group, char.isDigit := by
  refine ⟨List.append_ne_nil_of_right_ne_nil _ digits.1, fun char member => ?_⟩
  rcases List.mem_append.mp member with zero | own
  · rw [List.eq_of_mem_replicate zero]
    rfl
  · exact digits.2 char own

theorem grouped_paddedGroups (seconds atLeast : Nat) : Grouped (paddedGroups seconds atLeast) := by
  have grouped := grouped_digitGroups seconds
  unfold paddedGroups
  cases shown : digitGroups seconds with
  | nil => exact absurd shown grouped.ne_nil
  | cons first rest =>
    rw [shown] at grouped
    dsimp only
    split
    · exact grouped
    · obtain ⟨atFirst, atRest⟩ := List.forall_mem_cons.mp grouped.digits
      refine ⟨List.cons_ne_nil _ _, List.forall_mem_cons.mpr ⟨by simp [Char.isDigit], ?_⟩⟩
      refine List.forall_mem_append.mpr ⟨fun group member => ?_, ?_⟩
      · rw [List.eq_of_mem_replicate member]
        simp [Char.isDigit]
      · exact List.forall_mem_cons.mpr ⟨digits_padGroup atFirst, atRest⟩

/-- The groups are what stands between the dividers. -/
theorem Grouped.splitOn {groups : List (List Char)} (grouped : Grouped groups) :
    (List.intercalate [divider] groups).splitOn divider = groups := by
  refine List.splitOn_intercalate divider (fun group member divided => ?_) grouped.ne_nil
  exact absurd ((grouped.digits group member).2 divider divided) (by decide)

end Uptime

open Uptime

namespace LiveTime

variable (display : LiveTime) (now : Clock)

/-- The display without its cadence: this is what can be seen of it. -/
def still (display : LiveTime) : LiveTime :=
  { display with nextDue := 0 }

theorem startedAt_poll : (display.poll now).1.startedAt = display.startedAt := by
  unfold poll
  split <;> rfl

/-- Says whether the text of the display has changed by a recomputation. -/
theorem still_poll (unchanged : (display.poll now).2.any (!·.isEmpty) = false) :
    (display.poll now).1.still = display.still := by
  unfold poll at unchanged ⊢
  split
  · rfl
  · rename_i due
    rw [if_neg due, Option.any_some, Bool.not_eq_false', List.isEmpty_iff] at unchanged
    have same := eq_of_changedFrom_eq_nil unchanged (le_length_paddedGroups _ _)
    simp only [still, same]

theorem grouped_start (startedAt : Int) (generation interval : Nat) (now : Clock) :
    Grouped (start startedAt generation interval now).groups :=
  grouped_digitGroups _

variable {display}

theorem grouped_poll (grouped : Grouped display.groups) : Grouped (display.poll now).1.groups := by
  unfold poll
  split
  · exact grouped
  · exact grouped_paddedGroups _ _

theorem text_ne_nil (grouped : Grouped display.groups) : display.text ≠ [] := by
  intro empty
  have groups := grouped.splitOn
  rw [← text, empty] at groups
  exact (grouped.digits [] (groups ▸ List.mem_singleton_self _)).1 rfl

/-- A recomputation reports a change if and only if there is one of the text. -/
theorem visible_poll (grouped : Grouped display.groups) :
    (display.poll now).2.any (!·.isEmpty) = true ↔ (display.poll now).1.text ≠ display.text := by
  constructor
  · intro visible sameText
    have same : (display.poll now).1.groups = display.groups := by
      rw [← grouped.splitOn, ← (grouped_poll now grouped).splitOn]
      exact congrArg (List.splitOn divider) sameText
    unfold poll at visible same
    split at visible
    · cases visible
    · rename_i due
      rw [if_neg due] at same
      rw [Option.any_some, show paddedGroups _ _ = display.groups from same, changedFrom_self] at visible
      cases visible
  · intro another
    refine Bool.of_not_eq_false fun unseen => another ?_
    have same := congrArg text (display.still_poll now unseen)
    exact same

end LiveTime

end SessionBoard
