import SessionBoard.Json.Typed
import SessionBoard.Proofs.Json.Numbers

namespace SessionBoard.Json

/-- Blanks and nothing else. -/
def Blank (octets : Octets) : Prop :=
  ∀ octet ∈ octets, isBlank octet

instance (octets : Octets) : Decidable (Blank octets) :=
  List.decidableBAll (fun octet => isBlank octet) octets

/-- What stands before an item: blanks, with a comma among them unless the item is the first one. -/
inductive Parting : (first : Bool) → Octets → Prop
  | first {before : Octets} (blank : Blank before) : Parting true before
  | next {between before : Octets} (blank : Blank between) (blank' : Blank before) :
      Parting false (between ++ 0x2c :: before)

/-- Items up to the closing octet. -/
inductive Listed {α : Type} (Item : α → Octets → Prop) : (first : Bool) → List α → Octets → Prop
  | none {first : Bool} {after : Octets} (blank : Blank after) : Listed Item first [] after
  | item {first : Bool} {item : α} {items : List α} {parting text rest : Octets} (parted : Parting first parting)
      (written : Item item text) (others : Listed Item false items rest) :
      Listed Item first (item :: items) (parting ++ (text ++ rest))

/-- An array or object with these items, commas between them and blanks wherever they may stand. -/
inductive Enclosed {α : Type} (Item : α → Octets → Prop) (opening closing : UInt8) (items : List α) : Octets → Prop
  | between {inside : Octets} (listed : Listed Item true items inside) :
      Enclosed Item opening closing items (opening :: (inside ++ [closing]))

/-- A name, a colon and a value. -/
inductive MemberText (Name Value : Octets → Prop) : Octets → Prop
  | parts {name between before value : Octets} (named : Name name) (blank : Blank between) (blank' : Blank before)
      (valued : Value value) : MemberText Name Value (name ++ (between ++ 0x3a :: (before ++ value)))

/-- The first octet of a value: neither a blank nor the end of an array or object. -/
def Opens (octet : UInt8) : Prop :=
  isBlank octet = false ∧ octet ≠ 0x5d ∧ octet ≠ 0x7d

instance (octet : UInt8) : Decidable (Opens octet) :=
  inferInstanceAs (Decidable (_ ∧ _))

/-- A value begins here. -/
def Starts (text : Octets) : Prop :=
  ∃ octet rest, text = octet :: rest ∧ Opens octet

section

variable {α : Type} {Item : α → Octets → Prop} {first : Bool} {items : List α} {before text inside rest : Octets}

theorem Blank.nil : Blank [] :=
  List.forall_mem_nil _

theorem skipBlank_append (blank : Blank before) (rest : Octets) : skipBlank (before ++ rest) = skipBlank rest :=
  List.dropWhile_append_of_pos blank

theorem Opens.skipBlank {octet : UInt8} (opens : Opens octet) (rest : Octets) :
    skipBlank (octet :: rest) = octet :: rest :=
  List.dropWhile_cons_of_neg (by rw [opens.1]; decide)

theorem skipBlank_cons (blank : Blank before) {octet : UInt8} (opens : Opens octet) (rest : Octets) :
    skipBlank (before ++ octet :: rest) = octet :: rest :=
  (skipBlank_append blank _).trans (opens.skipBlank rest)

theorem opens_of_digit {octet : UInt8} (digit : isDigit octet) : Opens octet := by
  refine ⟨Bool.eq_false_iff.mpr fun blank => ?_, ?_, ?_⟩
  · simp only [isBlank, Bool.or_eq_true, beq_iff_eq] at blank
    rcases blank with ((rfl | rfl) | rfl) | rfl <;> cases digit
  · rintro rfl
    cases digit
  · rintro rfl
    cases digit

theorem Enclosed.starts {opening closing : UInt8} (enclosed : Enclosed Item opening closing items text)
    (opens : Opens opening) : Starts text := by
  cases enclosed with
  | between => exact ⟨_, _, rfl, opens⟩

theorem skipBlank_starts (blank : Blank before) (starts : Starts text) (rest : Octets) :
    skipBlank (before ++ (text ++ rest)) = text ++ rest := by
  obtain ⟨octet, more, rfl, opens⟩ := starts
  exact skipBlank_cons blank opens (more ++ rest)

theorem colon_append (blank : Blank before) (rest : Octets) : colon (before ++ 0x3a :: rest) = .ok rest := by
  rw [colon, skipBlank_cons blank (by decide)]
  rfl

theorem Starts.length_pos (starts : Starts text) : 0 < text.length := by
  obtain ⟨octet, more, rfl, _⟩ := starts
  exact Nat.succ_pos _

theorem Blank.not_goesOn {octet : UInt8} (blank : isBlank octet = true) : goesOn octet = false := by
  simp only [isBlank, Bool.or_eq_true, beq_iff_eq] at blank
  rcases blank with ((rfl | rfl) | rfl) | rfl <;> rfl

theorem Ended.of_blank (blank : Blank before) (ended : Ended rest) : Ended (before ++ rest) := by
  cases before with
  | nil => exact ended
  | cons octet before =>
    rintro _ ⟨⟩
    exact Blank.not_goesOn (blank octet List.mem_cons_self)

theorem Ended.cons {octet : UInt8} (stop : goesOn octet = false) : Ended (octet :: rest) := by
  rintro _ ⟨⟩
  exact stop

theorem Parting.ended {parting : Octets} (parted : Parting false parting) (rest : Octets) :
    Ended (parting ++ rest) := by
  cases parted with
  | next blank =>
    rw [List.append_assoc]
    exact (Ended.cons rfl).of_blank blank

/-- Whatever comes after an item, it does not go on with a number. -/
theorem Listed.ended (listed : Listed Item false items inside) (ended : Ended rest) : Ended (inside ++ rest) := by
  cases listed with
  | none blank => exact ended.of_blank blank
  | item parted =>
    rw [List.append_assoc]
    exact parted.ended _

theorem turn_append (closing : UInt8) (first : Bool) (blank : Blank before) (rest : Octets) :
    turn closing first (before ++ rest) = turn closing first rest := by
  rw [turn, skipBlank_append blank, ← turn]

theorem turn_close {closing : UInt8} (closes : closing = 0x5d ∨ closing = 0x7d) (first : Bool) (rest : Octets) :
    turn closing first (closing :: rest) = .ok (.close rest) := by
  rcases closes with rfl | rfl <;> rfl

/-- An item is found behind what stands before it, with blanks in front perhaps. -/
theorem Parting.turn {closing : UInt8} {parting : Octets} (parted : Parting first parting)
    (closes : closing = 0x5d ∨ closing = 0x7d) (starts : Starts text) (rest : Octets) :
    ∃ before, Blank before ∧
      turn closing first (parting ++ (text ++ rest)) = .ok (.item (before ++ (text ++ rest))) := by
  cases parted with
  | first blank =>
    obtain ⟨octet, more, rfl, opens⟩ := starts
    refine ⟨[], Blank.nil, ?_⟩
    have other : octet ≠ closing := by
      rcases closes with rfl | rfl
      · exact opens.2.1
      · exact opens.2.2
    rw [turn_append closing true blank, Json.turn, List.cons_append, opens.skipBlank]
    exact if_neg other
  | @next between before blank blank' =>
    refine ⟨before, blank', ?_⟩
    rw [List.append_assoc, turn_append closing false blank]
    rcases closes with rfl | rfl <;> rfl

theorem Listed.map {β : Type} {Item : β → Octets → Prop} {index : α → β}
    (listed : Listed (fun item => Item (index item)) first items inside) :
    Listed Item first (items.map index) inside := by
  induction listed with
  | none blank => exact .none blank
  | item parted written _ ih => exact .item parted written ih

theorem Enclosed.map {β : Type} {Item : β → Octets → Prop} {index : α → β} {opening closing : UInt8}
    (enclosed : Enclosed (fun item => Item (index item)) opening closing items text) :
    Enclosed Item opening closing (items.map index) text := by
  cases enclosed with
  | between listed => exact .between listed.map

theorem Listed.length_le (starts : ∀ item text, Item item text → Starts text)
    (listed : Listed Item first items inside) : items.length ≤ inside.length := by
  induction listed with
  | none blank => exact Nat.zero_le _
  | item parted written others ih =>
    have positive := (starts _ _ written).length_pos
    simp only [List.length_cons, List.length_append]
    omega

/-- The reader reads any such item as what it is, with blanks before it and anything else after it. -/
def Reads (reader : Reader α) (Item : α → Octets → Prop) : Prop :=
  ∀ item text, Item item text → ∀ before rest, Blank before → Ended rest →
    reader (before ++ (text ++ rest)) = .ok (item, rest)

theorem Listed.readItems {reader : Reader α} (reads : Reads reader Item)
    (starts : ∀ item text, Item item text → Starts text) (listed : Listed Item first items inside) {fuel : Nat}
    (fueled : items.length < fuel) (rest : Octets) :
    readItems reader fuel first (inside ++ 0x5d :: rest) = .ok (items, rest) := by
  induction listed generalizing fuel with
  | @none first after blank =>
    obtain ⟨fuel, rfl⟩ := Nat.exists_eq_succ_of_ne_zero (Nat.ne_zero_of_lt fueled)
    rw [Json.readItems, turn_append 0x5d first blank, turn_close (.inl rfl)]
    rfl
  | @item first item items parting text others parted written listed ih =>
    obtain ⟨fuel, rfl⟩ := Nat.exists_eq_succ_of_ne_zero (Nat.ne_zero_of_lt fueled)
    obtain ⟨before, blank, turned⟩ := parted.turn (.inl rfl) (starts _ _ written) (others ++ 0x5d :: rest)
    have ended : Ended (others ++ 0x5d :: rest) := listed.ended (Ended.cons rfl)
    have read := reads _ _ written before _ blank ended
    have tail := ih (Nat.lt_of_succ_lt_succ fueled)
    rw [Json.readItems, List.append_assoc, List.append_assoc, turned]
    simp only [bind, Except.bind, read, tail]
    rfl

theorem readArray_opened (reader : Reader α) (blank : Blank before) (rest : Octets) :
    readArray reader (before ++ 0x5b :: rest) = readItems reader (enough rest) true rest := by
  rw [readArray, skipBlank_cons blank (by decide)]
  rfl

theorem Enclosed.readArray {reader : Reader α} (reads : Reads reader Item)
    (starts : ∀ item text, Item item text → Starts text) (enclosed : Enclosed Item 0x5b 0x5d items text)
    (blank : Blank before) (rest : Octets) : readArray reader (before ++ (text ++ rest)) = .ok (items, rest) := by
  cases enclosed with
  | @between inside listed =>
    have fueled : items.length < enough (inside ++ 0x5d :: rest) := by
      have bound := listed.length_le starts
      simp only [enough, List.length_append]
      omega
    rw [List.cons_append, readArray_opened reader blank, List.append_assoc, List.singleton_append]
    exact listed.readItems reads starts fueled rest

end

end SessionBoard.Json
