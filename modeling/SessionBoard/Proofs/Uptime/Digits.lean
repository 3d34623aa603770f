import Mathlib.Algebra.Group.Nat.Defs
import Mathlib.Data.Nat.Log
import SessionBoard.Proofs.Uptime

namespace SessionBoard.Uptime

variable {digits group : List Char} {seconds atLeast count : Nat}

theorem length_lt_three (short : ∀ a b c rest, digits = a :: b :: c :: rest → False) :
    digits.length < 3 := by
  rcases digits with _ | ⟨a, _ | ⟨b, _ | ⟨c, rest⟩⟩⟩
  · exact Nat.zero_lt_succ 2
  · exact Nat.one_lt_succ_succ 1
  · exact Nat.lt_succ_self 2
  · exact absurd rfl (short a b c rest)

theorem length_triples (digits : List Char) : (triples digits).length = digits.length / 3 := by
  fun_induction triples digits with
  | case1 a b c rest ih =>
    simp only [List.length_cons, ih]
    omega
  | case2 digits short =>
    rw [List.length_nil, Nat.div_eq_of_lt (length_lt_three short)]

theorem flatten_triples (divides : digits.length % 3 = 0) : (triples digits).flatten = digits := by
  fun_induction triples digits with
  | case1 a b c rest ih =>
    have divides : rest.length % 3 = 0 := by
      simp only [List.length_cons] at divides
      omega
    rw [List.flatten_cons, ih divides]
    rfl
  | case2 digits short =>
    have bound := length_lt_three short
    have empty : digits.length = 0 := by omega
    rw [List.eq_nil_of_length_eq_zero empty]
    rfl

theorem length_of_mem_triples (member : group ∈ triples digits) : group.length = 3 := by
  fun_induction triples digits with
  | case1 a b c rest ih =>
    rcases List.mem_cons.mp member with rfl | later
    · rfl
    · exact ih later
  | case2 => cases member

/-- How many groups a number takes. -/
def groupsFor (seconds : Nat) : Nat :=
  Nat.log 1000 seconds + 1

theorem groupsFor_le_iff (positive : 0 < count) : groupsFor seconds ≤ count ↔ seconds < 1000 ^ count := by
  rcases Nat.eq_zero_or_pos seconds with rfl | some_second
  · have power : 0 < 1000 ^ count := Nat.pow_pos (by omega)
    rw [groupsFor, Nat.log_zero_right]
    omega
  · rw [← Nat.log_lt_iff_lt_pow (by omega) (by omega), groupsFor]
    omega

/-- The digits of the first group leave a multiple of three for the others. -/
theorem exists_head (seconds : Nat) : ∃ head, 0 < head ∧ head ≤ (Nat.toDigits 10 seconds).length ∧
    ((Nat.toDigits 10 seconds).drop head).length % 3 = 0 ∧ head ≤ 3 ∧
    digitGroups seconds = (Nat.toDigits 10 seconds).take head ::
      triples ((Nat.toDigits 10 seconds).drop head) := by
  have some_digit : 0 < (Nat.toDigits 10 seconds).length := Nat.length_toDigits_pos
  refine ⟨((Nat.toDigits 10 seconds).length - 1) % 3 + 1, by omega, by omega, ?_, by omega, rfl⟩
  rw [List.length_drop]
  omega

theorem length_digitGroups (seconds : Nat) : (digitGroups seconds).length = groupsFor seconds := by
  obtain ⟨head, positive, within, divides, most, groups⟩ := exists_head seconds
  have size : (digitGroups seconds).length = ((Nat.toDigits 10 seconds).length + 2) / 3 := by
    rw [List.length_drop] at divides
    rw [groups, List.length_cons, length_triples, List.length_drop]
    omega
  -- Both numbers are told by their upper bounds, which say that the seconds are below a power of 1000.
  refine eq_of_forall_ge_iff fun count => ?_
  rcases Nat.eq_zero_or_pos count with rfl | some_group
  · rw [size, groupsFor]
    omega
  · have digits := Nat.length_toDigits_le_iff (b := 10) (n := seconds) (k := 3 * count) (by omega) (by omega)
    rw [Nat.pow_mul, show 10 ^ 3 = 1000 from rfl] at digits
    rw [groupsFor_le_iff some_group, ← digits, size]
    omega

/-- Digits in threes, the first ones apart, that read as this number, whatever zeros they were filled up with.
-/
structure Numeral (groups : List (List Char)) (seconds : Nat) : Prop where
  grouped : Grouped groups
  threes : ∀ group ∈ groups.tail, group.length = 3
  value : Nat.ofDigitChars 10 groups.flatten 0 = seconds

theorem numeral_digitGroups (seconds : Nat) : Numeral (digitGroups seconds) seconds where
  grouped := grouped_digitGroups seconds
  threes := by
    obtain ⟨head, _, _, _, _, groups⟩ := exists_head seconds
    rw [groups]
    exact fun group later => length_of_mem_triples later
  value := by
    obtain ⟨head, _, _, divides, _, groups⟩ := exists_head seconds
    rw [groups, List.flatten_cons, flatten_triples divides, List.take_append_drop]
    exact Nat.ofDigitChars_toDigits (by omega) (by omega)

theorem ofDigitChars_zeros (count : Nat) (digits : List Char) :
    Nat.ofDigitChars 10 (List.replicate count '0' ++ digits) 0 = Nat.ofDigitChars 10 digits 0 := by
  induction count with
  | zero => rfl
  | succ count ih =>
    rw [List.replicate_succ, List.cons_append, Nat.ofDigitChars_cons]
    exact ih

theorem paddedGroups_of_le (enough : atLeast ≤ groupsFor seconds) :
    paddedGroups seconds atLeast = digitGroups seconds := by
  rw [← length_digitGroups] at enough
  cases shown : digitGroups seconds with
  | nil => simp only [paddedGroups, shown]
  | cons first rest =>
    rw [shown, List.length_cons] at enough
    simp only [paddedGroups, shown]
    rw [if_pos (by omega)]

/-- Where groups are missing the first one is filled up, and groups of zeros come before it. -/
theorem exists_filled (few : groupsFor seconds < atLeast) : ∃ first rest,
    digitGroups seconds = first :: rest ∧ first.length ≤ 3 ∧
      paddedGroups seconds atLeast = ['0'] ::
        (List.replicate (atLeast - groupsFor seconds - 1) ['0', '0', '0'] ++ padGroup first :: rest) := by
  obtain ⟨head, _, _, _, most, groups⟩ := exists_head seconds
  have size := length_digitGroups seconds
  refine ⟨_, _, groups, by rw [List.length_take]; omega, ?_⟩
  rw [groups, List.length_cons] at size
  simp only [paddedGroups, groups]
  rw [size, if_neg (by omega), List.cons_append]

theorem length_paddedGroups (seconds atLeast : Nat) :
    (paddedGroups seconds atLeast).length = max atLeast (groupsFor seconds) := by
  rcases Nat.lt_or_ge (groupsFor seconds) atLeast with few | enough
  · obtain ⟨first, rest, groups, _, filled⟩ := exists_filled few
    have size := length_digitGroups seconds
    rw [groups, List.length_cons] at size
    simp only [filled, List.length_cons, List.length_append, List.length_replicate]
    omega
  · rw [paddedGroups_of_le enough, length_digitGroups, Nat.max_eq_right enough]

theorem length_padGroup (short : group.length ≤ 3) : (padGroup group).length = 3 := by
  rw [padGroup, List.length_append, List.length_replicate]
  omega

/-- Filling up leaves the number as it is. -/
theorem numeral_paddedGroups (seconds atLeast : Nat) : Numeral (paddedGroups seconds atLeast) seconds := by
  have numeral := numeral_digitGroups seconds
  rcases Nat.lt_or_ge (groupsFor seconds) atLeast with few | enough
  · obtain ⟨first, rest, groups, short, filled⟩ := exists_filled few
    rw [groups] at numeral
    refine ⟨grouped_paddedGroups seconds atLeast, ?_, ?_⟩
    · rw [filled]
      refine List.forall_mem_append.mpr ⟨fun group member => ?_, ?_⟩
      · rw [List.eq_of_mem_replicate member]
        rfl
      · exact List.forall_mem_cons.mpr ⟨length_padGroup short, numeral.threes⟩
    · have zeros : (['0'] :: List.replicate (atLeast - groupsFor seconds - 1) ['0', '0', '0']).flatten =
          List.replicate (1 + (atLeast - groupsFor seconds - 1) * 3) '0' := by
        rw [List.flatten_cons, show ['0', '0', '0'] = List.replicate 3 '0' from rfl,
          List.flatten_replicate_replicate, Nat.add_comm, List.replicate_succ]
        rfl
      have value := numeral.value
      rw [List.flatten_cons] at value
      rw [filled, ← List.cons_append, List.flatten_append, zeros, ofDigitChars_zeros, List.flatten_cons,
        padGroup, List.append_assoc, ofDigitChars_zeros, value]
  · rw [paddedGroups_of_le enough]
    exact numeral

/-- The positions that are reported are those at which the groups differ. -/
theorem changedFrom_eq (index : Nat) (old new : List (List Char)) : changedFrom index old new =
    (List.range' index new.length).filter fun place => new[place - index]? ≠ old[place - index]? := by
  induction new generalizing index old with
  | nil => cases old <;> rfl
  | cons group groups ih =>
    -- Past the first group every place moves by one, in the new groups as in the old ones.
    have later : ∀ earlier : List (List Char), (∀ place, earlier[place]? = old[place + 1]?) →
        (List.range' (index + 1) groups.length).filter
            (fun place => (group :: groups)[place - index]? ≠ old[place - index]?) =
          changedFrom (index + 1) earlier groups := by
      intro earlier shifted
      rw [ih]
      refine List.filter_congr fun place member => ?_
      have least := (List.mem_range'_1.mp member).1
      obtain ⟨step, rfl⟩ := Nat.exists_eq_add_of_le least
      rw [show index + 1 + step - index = step + 1 by omega,
        show index + 1 + step - (index + 1) = step by omega, List.getElem?_cons_succ, shifted]
    rw [List.length_cons, List.range'_succ]
    cases old with
    | nil =>
      rw [changedFrom, List.filter_cons_of_pos (by simp), later [] (fun _ => rfl)]
    | cons earlier earliers =>
      rw [changedFrom]
      split
      · rename_i same
        rw [List.filter_cons_of_neg (by simp [same]), later earliers (fun _ => rfl)]
      · rename_i other
        rw [List.filter_cons_of_pos (by simpa using Ne.symm other), later earliers (fun _ => rfl)]

end SessionBoard.Uptime
