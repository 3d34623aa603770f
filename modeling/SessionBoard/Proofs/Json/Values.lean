import SessionBoard.Proofs.Json.Layout
import SessionBoard.Proofs.Json.Strings

namespace SessionBoard.Json

/-- A value without parts. Like one of any depth it is passed over from its first octet to its last where nobody
wants it. -/
inductive IsScalar : Octets → Prop
  | null : IsScalar [0x6e, 0x75, 0x6c, 0x6c]
  | true : IsScalar [0x74, 0x72, 0x75, 0x65]
  | false : IsScalar [0x66, 0x61, 0x6c, 0x73, 0x65]
  | string {octets : Octets} (unread : UnreadString octets) : IsScalar octets
  | number {octets : Octets} (magnitude : IsMagnitude octets) : IsScalar octets
  | negative {octets : Octets} (magnitude : IsMagnitude octets) : IsScalar (0x2d :: octets)

/-- A value that nests `depth` levels deep at most. -/
def IsValue : (depth : Nat) → Octets → Prop
  | 0, octets => IsScalar octets
  | depth + 1, octets =>
    IsScalar octets ∨
      (∃ items : List Unit, Enclosed (fun _ => IsValue depth) 0x5b 0x5d items octets) ∨
      ∃ members : List Unit, Enclosed (fun _ => MemberText UnreadString (IsValue depth)) 0x7b 0x7d members octets

variable {depth fuel left : Nat} {first : Bool} {before text inside rest : Octets}

theorem IsMagnitude.head (magnitude : IsMagnitude text) : ∃ octet rest, text = octet :: rest ∧ isDigit octet := by
  cases magnitude with
  | @parts whole fraction exponent isWhole =>
    obtain ⟨octet, more, rfl⟩ := List.exists_cons_of_ne_nil isWhole.1.1
    exact ⟨octet, _, rfl, isWhole.1.2 octet List.mem_cons_self⟩

theorem IsScalar.starts (scalar : IsScalar text) : Starts text := by
  cases scalar with
  | null => exact ⟨_, _, rfl, by decide⟩
  | true => exact ⟨_, _, rfl, by decide⟩
  | false => exact ⟨_, _, rfl, by decide⟩
  | string unread =>
    obtain ⟨inside, rfl, _⟩ := unread.skipString
    exact ⟨_, _, rfl, by decide⟩
  | number magnitude =>
    obtain ⟨octet, rest, rfl, digit⟩ := magnitude.head
    exact ⟨_, _, rfl, opens_of_digit digit⟩
  | negative => exact ⟨_, _, rfl, by decide⟩

theorem IsValue.starts (value : IsValue depth text) : Starts text := by
  cases depth with
  | zero => exact IsScalar.starts value
  | succ depth =>
    obtain scalar | ⟨_, items⟩ | ⟨_, members⟩ := value
    · exact scalar.starts
    · exact items.starts (by decide)
    · exact members.starts (by decide)

theorem skipValue_append (blank : Blank before) (rest : Octets) :
    skipValue .lenient (fuel + 1) left (before ++ rest) = skipValue .lenient (fuel + 1) left rest := by
  rw [skipValue, skipValue, skipBlank_append blank]

theorem skipValue_digit {octet : UInt8} (digit : isDigit octet) :
    skipValue .lenient (fuel + 1) left (octet :: rest) = skipNumber (octet :: rest) := by
  have range : 0x30 ≤ octet.toNat ∧ octet.toNat ≤ 0x39 := by
    simp only [isDigit, Bool.and_eq_true, decide_eq_true_eq, UInt8.le_iff_toNat_le] at digit
    exact digit
  have other : ∀ char : Char, Char.ofUInt8 octet = char → 0x30 ≤ char.toNat ∧ char.toNat ≤ 0x39 := by
    rintro _ rfl
    exact range
  rw [Json.skipValue, (opens_of_digit digit).skipBlank]
  -- No digit is the first letter of another kind of value.
  simp only
  split
  all_goals first
    | exact if_pos digit
    | exact absurd (other _ ‹_›) (by decide)

theorem IsScalar.skipValue (scalar : IsScalar text) (blank : Blank before) (ended : Ended rest) :
    skipValue .lenient (fuel + 1) left (before ++ (text ++ rest)) = .ok rest := by
  rw [skipValue_append blank]
  cases scalar with
  | null => rfl
  | true => rfl
  | false => rfl
  | string unread =>
    obtain ⟨inside, rfl, read⟩ := unread.skipString
    exact read rest
  | number magnitude =>
    obtain ⟨octet, more, rfl, digit⟩ := magnitude.head
    exact (skipValue_digit digit).trans (magnitude.skipNumber ended)
  | negative magnitude => exact magnitude.skipNumber ended

/-- Any such value can be passed over, blanks before it included. -/
def Passed (Value : Octets → Prop) : Prop :=
  ∀ text, Value text → ∀ before rest fuel left, Blank before → Ended rest → 2 * text.length ≤ fuel →
    skipValue .lenient fuel left (before ++ (text ++ rest)) = .ok rest

section

variable {Value : Octets → Prop} {items : List Unit}

theorem Listed.skipItems (passed : Passed Value) (starts : ∀ text, Value text → Starts text)
    (listed : Listed (fun _ => Value) first items inside) (fueled : 2 * inside.length < fuel) (rest : Octets) :
    skipItems .lenient fuel left first (inside ++ 0x5d :: rest) = .ok rest := by
  induction listed generalizing fuel with
  | @none first after blank =>
    obtain ⟨fuel, rfl⟩ := Nat.exists_eq_succ_of_ne_zero (Nat.ne_zero_of_lt fueled)
    rw [Json.skipItems, turn_append 0x5d first blank, turn_close (.inl rfl)]
    rfl
  | @item first _ items parting text others parted written listed ih =>
    obtain ⟨fuel, rfl⟩ := Nat.exists_eq_succ_of_ne_zero (Nat.ne_zero_of_lt fueled)
    -- An item has an octet at least, and so pays for its turn.
    have positive := (starts text written).length_pos
    simp only [List.length_append] at fueled
    obtain ⟨before, blank, turned⟩ := parted.turn (.inl rfl) (starts text written) (others ++ 0x5d :: rest)
    have ended : Ended (others ++ 0x5d :: rest) := listed.ended (Ended.cons rfl)
    have value := passed text written before _ fuel left blank ended (by omega)
    have fewer : 2 * others.length < fuel := by omega
    have tail := ih fewer
    rw [Json.skipItems, List.append_assoc, List.append_assoc, turned]
    simp only [bind, Except.bind, value, tail]

theorem Listed.skipMembers (passed : Passed Value)
    (listed : Listed (fun _ => MemberText UnreadString Value) first items inside) (fueled : 2 * inside.length < fuel)
    (rest : Octets) : skipMembers .lenient fuel left first (inside ++ 0x7d :: rest) = .ok rest := by
  induction listed generalizing fuel with
  | @none first after blank =>
    obtain ⟨fuel, rfl⟩ := Nat.exists_eq_succ_of_ne_zero (Nat.ne_zero_of_lt fueled)
    rw [Json.skipMembers, turn_append 0x7d first blank, turn_close (.inr rfl)]
    rfl
  | @item first _ items parting text others parted written listed ih =>
    obtain ⟨fuel, rfl⟩ := Nat.exists_eq_succ_of_ne_zero (Nat.ne_zero_of_lt fueled)
    cases written with
    | @parts name between before value named blank blank' valued =>
      obtain ⟨inside, rfl, read⟩ := named.skipString
      have starts : Starts (0x22 :: inside ++ (between ++ 0x3a :: (before ++ value))) := ⟨_, _, rfl, by decide⟩
      simp only [List.length_append, List.length_cons] at fueled
      obtain ⟨lead, blank'', turned⟩ := parted.turn (.inr rfl) starts (others ++ 0x7d :: rest)
      have ended : Ended (others ++ 0x7d :: rest) := listed.ended (Ended.cons rfl)
      have found := skipBlank_starts blank'' starts (others ++ 0x7d :: rest)
      have skipped := passed value valued before _ fuel left blank' ended (by omega)
      have fewer : 2 * others.length < fuel := by omega
      have tail := ih fewer
      rw [Json.skipMembers, List.append_assoc, List.append_assoc, turned]
      simp only [bind, Except.bind, found]
      simp only [List.cons_append, List.append_assoc, Care.string, read, colon_append blank, skipped, tail]
      rfl

end

theorem IsScalar.passed : Passed IsScalar := by
  intro text scalar before rest fuel left blank ended fueled
  have positive := scalar.starts.length_pos
  obtain ⟨fuel, rfl⟩ := Nat.exists_eq_succ_of_ne_zero (by omega : fuel ≠ 0)
  exact scalar.skipValue blank ended

theorem IsValue.passed (depth : Nat) : Passed (IsValue depth) := by
  induction depth with
  | zero => exact IsScalar.passed
  | succ depth ih =>
    intro text value before rest fuel left blank ended fueled
    obtain scalar | ⟨_, ⟨items⟩⟩ | ⟨_, ⟨members⟩⟩ := value
    · exact IsScalar.passed text scalar before rest fuel left blank ended fueled
    · simp only [List.length_cons, List.length_append] at fueled
      obtain ⟨fuel, rfl⟩ := Nat.exists_eq_succ_of_ne_zero (by omega : fuel ≠ 0)
      rw [skipValue_append blank, List.cons_append, List.append_assoc]
      exact items.skipItems ih (fun _ => IsValue.starts) (by omega) rest
    · simp only [List.length_cons, List.length_append] at fueled
      obtain ⟨fuel, rfl⟩ := Nat.exists_eq_succ_of_ne_zero (by omega : fuel ≠ 0)
      rw [skipValue_append blank, List.cons_append, List.append_assoc]
      exact members.skipMembers ih (by omega) rest

/-- A value nobody wants is passed over, however deep it nests. -/
theorem IsValue.skipUnused (value : IsValue depth text) (blank : Blank before) (ended : Ended rest) :
    skipUnused (before ++ (text ++ rest)) = .ok rest := by
  refine IsValue.passed depth text value before rest _ 0 blank ended ?_
  simp only [enough, List.length_append]
  omega

end SessionBoard.Json
