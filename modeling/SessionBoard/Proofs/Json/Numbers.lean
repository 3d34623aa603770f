import SessionBoard.Json.Number
import SessionBoard.Proofs.Text.Utf8

namespace SessionBoard.Json

open SessionBoard.Text

/-- An octet that would go on with a number right before it. -/
def goesOn (octet : UInt8) : Bool :=
  isDigit octet || octet == 0x2e || isExponentMark octet

/-- Nothing here goes on with a number written right before it. -/
def Ended (rest : Octets) : Prop :=
  ∀ octet, rest.head? = some octet → goesOn octet = false

def IsDigits (octets : Octets) : Prop :=
  octets ≠ [] ∧ ∀ octet ∈ octets, isDigit octet

/-- Digits without a needless zero in front. -/
def IsNatural (octets : Octets) : Prop :=
  IsDigits octets ∧ (octets.head? = some 0x30 → octets = [0x30])

inductive IsFraction : Octets → Prop
  | none : IsFraction []
  | some {digits : Octets} (isDigits : IsDigits digits) : IsFraction (0x2e :: digits)

inductive IsExponent : Octets → Prop
  | none : IsExponent []
  | some {mark : UInt8} {sign digits : Octets} (isMark : mark = 0x65 ∨ mark = 0x45)
      (isSign : sign = [] ∨ sign = [0x2b] ∨ sign = [0x2d]) (isDigits : IsDigits digits) :
      IsExponent (mark :: (sign ++ digits))

/-- A number without its sign. One that fits 64 bits is read as the integer that it is, and one of any size can
be passed over; both need to know where the number ends. -/
inductive IsMagnitude : Octets → Prop
  | parts {whole fraction exponent : Octets} (isWhole : IsNatural whole) (isFraction : IsFraction fraction)
      (isExponent : IsExponent exponent) : IsMagnitude (whole ++ (fraction ++ exponent))

/-- The decimal form of an integer that 64 bits hold, as a signed or as an unsigned one. -/
structure IntegerText (value : Int) (octets : Octets) : Prop where
  decimal : octets = Utf8.encode (toString value).toList
  lower : -0x8000000000000000 ≤ value
  upper : value ≤ 0xffffffffffffffff

theorem Ended.head_not_digit {rest : Octets} (ended : Ended rest) :
    ∀ octet, rest.head? = some octet → isDigit octet = false := by
  intro octet first
  have notOn := ended octet first
  simp only [goesOn, Bool.or_eq_false_iff] at notOn
  exact notOn.1.1

theorem takeWhile_digits {digits rest : Octets} (all : ∀ octet ∈ digits, isDigit octet)
    (stop : ∀ octet, rest.head? = some octet → isDigit octet = false) :
    (digits ++ rest).takeWhile isDigit = digits ∧ (digits ++ rest).dropWhile isDigit = rest := by
  rw [List.takeWhile_append_of_pos all, List.dropWhile_append_of_pos all]
  cases rest with
  | nil => simp
  | cons octet rest => simp [stop octet rfl]

theorem IsNatural.not_padded {first : UInt8} {more : Octets} (natural : IsNatural (first :: more)) :
    ¬ (first = 0x30 ∧ (!more.isEmpty) = true) := by
  rintro ⟨rfl, others⟩
  rw [(List.cons.inj (natural.2 rfl)).2] at others
  cases others

/-- The decimal form of a natural number. -/
def decimal (n : Nat) : Octets :=
  Utf8.encode (Nat.toDigits 10 n)

theorem decimal_of_lt {n : Nat} (small : n < 10) : decimal n = [UInt8.ofNat (0x30 + n)] := by
  rw [decimal, Nat.toDigits_of_lt_base small]
  revert n
  decide

theorem decimal_of_le {n : Nat} (large : 10 ≤ n) :
    decimal n = decimal (n / 10) ++ [UInt8.ofNat (0x30 + n % 10)] := by
  have last := decimal_of_lt (Nat.mod_lt n (by decide : 10 > 0))
  rw [decimal, Nat.toDigits_of_lt_base (Nat.mod_lt n (by decide))] at last
  rw [decimal, Nat.toDigits_of_base_le (by decide) large, Utf8.encode_append, last, decimal]

theorem isDigit_ofNat {n : Nat} (small : n < 10) : isDigit (UInt8.ofNat (0x30 + n)) := by
  revert n
  decide

theorem digitValue_ofNat {n : Nat} (small : n < 10) : digitValue (UInt8.ofNat (0x30 + n)) = n := by
  revert n
  decide

theorem isDigits_decimal (n : Nat) : IsDigits (decimal n) := by
  induction n using Nat.strongRecOn with
  | ind n ih =>
    by_cases small : n < 10
    · rw [decimal_of_lt small]
      exact ⟨List.cons_ne_nil _ _, List.forall_mem_singleton.mpr (isDigit_ofNat small)⟩
    · rw [decimal_of_le (Nat.not_lt.mp small)]
      obtain ⟨_, digits⟩ := ih (n / 10) (by omega)
      refine ⟨by simp, List.forall_mem_append.mpr ⟨digits, List.forall_mem_singleton.mpr ?_⟩⟩
      exact isDigit_ofNat (Nat.mod_lt n (by decide))

/-- Only zero begins with a zero. -/
theorem eq_zero_of_head {n : Nat} (zero : (decimal n).head? = some 0x30) : n = 0 := by
  induction n using Nat.strongRecOn with
  | ind n ih =>
    by_cases small : n < 10
    · rw [decimal_of_lt small] at zero
      have digits : ∀ m < 10, [UInt8.ofNat (0x30 + m)].head? = some 0x30 → m = 0 := by decide
      exact digits n small zero
    · have large := Nat.not_lt.mp small
      have shorter : (decimal (n / 10)).head? = some 0x30 := by
        obtain ⟨first, more, split⟩ := List.exists_cons_of_ne_nil (isDigits_decimal (n / 10)).1
        rw [decimal_of_le large, split] at zero
        rw [split]
        exact zero
      have := ih (n / 10) (by omega) shorter
      omega

theorem isNatural_decimal (n : Nat) : IsNatural (decimal n) := by
  refine ⟨isDigits_decimal n, fun zero => ?_⟩
  rw [eq_zero_of_head zero]
  rfl

/-- Digit by digit, a number that fits is read as itself. -/
theorem ofInteger_decimal {n : Nat} (fits : n ≤ maxUnsigned) : Scaled.ofInteger (decimal n) = ⟨n, 0⟩ := by
  induction n using Nat.strongRecOn with
  | ind n ih =>
    by_cases small : n < 10
    · rw [decimal_of_lt small]
      have value := digitValue_ofNat small
      simp only [Scaled.ofInteger, List.foldl_cons, List.foldl_nil, value, Nat.zero_mul, Nat.zero_add, fits, and_self,
        if_true]
    · have large := Nat.not_lt.mp small
      have earlier := ih (n / 10) (by omega) (by omega)
      have last := digitValue_ofNat (Nat.mod_lt n (by decide : 10 > 0))
      have whole : n / 10 * 10 + n % 10 = n := Nat.div_add_mod' n 10
      rw [decimal_of_le large, Scaled.ofInteger, List.foldl_append, ← Scaled.ofInteger, earlier]
      simp only [List.foldl_cons, List.foldl_nil, last, whole, fits, and_self, if_true]

theorem readNumber_decimal {n : Nat} (fits : n ≤ maxUnsigned) (negative : Bool) {rest : Octets}
    (ended : Ended rest) : readNumber negative (decimal n ++ rest) = integerOf negative ⟨n, 0⟩ rest := by
  have natural := isNatural_decimal n
  obtain ⟨taken, dropped⟩ := takeWhile_digits natural.1.2 ended.head_not_digit
  obtain ⟨first, more, split⟩ := List.exists_cons_of_ne_nil natural.1.1
  rw [readNumber, taken, dropped, ofInteger_decimal fits, split]
  rw [split] at natural
  simp only [if_neg natural.not_padded]
  cases rest with
  | nil => rfl
  | cons octet after =>
    have notOn := ended octet rfl
    simp only [goesOn, Bool.or_eq_false_iff, beq_eq_false_iff_ne] at notOn
    obtain ⟨⟨_, noPoint⟩, noMark⟩ := notOn
    simp only [noPoint, noMark, if_false, Bool.false_eq_true]

theorem toList_toString_ofNat (n : Nat) : (toString (Int.ofNat n)).toList = Nat.toDigits 10 n := by
  rw [Int.toString_eq_repr, Int.repr, ← Nat.toString_eq_repr, Nat.toString_eq_ofList_toDigits, String.toList_ofList]

theorem toList_toString_negSucc (n : Nat) :
    (toString (Int.negSucc n)).toList = '-' :: Nat.toDigits 10 (n + 1) := by
  rw [Int.toString_eq_repr, Int.repr, ← Nat.toString_eq_repr, Nat.toString_eq_ofList_toDigits, String.toList_append,
    String.toList_ofList, String.toList_ofList]
  rfl

/-- An integer begins with its sign or with a digit, and is read as what it is. -/
theorem IntegerText.readNumber {value : Int} {octets : Octets} (written : IntegerText value octets) :
    (∃ digits, octets = 0x2d :: digits ∧
      ∀ rest, Ended rest → readNumber true (digits ++ rest) = .ok (.integer value, rest)) ∨
    (∃ first more, octets = first :: more ∧ isDigit first ∧
      ∀ rest, Ended rest → readNumber false (octets ++ rest) = .ok (.integer value, rest)) := by
  obtain ⟨rfl, lower, upper⟩ := written
  cases value with
  | ofNat n =>
    have fits : n ≤ maxUnsigned := by
      rw [Int.ofNat_eq_natCast] at upper
      rw [maxUnsigned]
      omega
    obtain ⟨notEmpty, digits⟩ := isDigits_decimal n
    obtain ⟨first, more, split⟩ := List.exists_cons_of_ne_nil notEmpty
    rw [toList_toString_ofNat]
    refine .inr ⟨first, more, split, digits first (by rw [split]; exact List.mem_cons_self), fun rest ended => ?_⟩
    exact readNumber_decimal fits false ended
  | negSucc n =>
    have small : n + 1 ≤ 0x8000000000000000 := by omega
    have fits : n + 1 ≤ maxUnsigned := Nat.le_trans small (by decide)
    have inRange : ¬ (n + 1 = 0 ∨ 0x8000000000000000 < n + 1) := by omega
    rw [toList_toString_negSucc]
    refine .inl ⟨Json.decimal (n + 1), rfl, fun rest ended => ?_⟩
    rw [readNumber_decimal fits true ended, integerOf]
    exact if_neg inRange

theorem skipNumber_exponent {sign digits : Octets} (isSign : sign = [] ∨ sign = [0x2b] ∨ sign = [0x2d])
    (isDigits : IsDigits digits) {rest : Octets} (ended : Ended rest) :
    skipNumber.exponent (sign ++ (digits ++ rest)) = .ok rest := by
  obtain ⟨notEmpty, all⟩ := isDigits
  obtain ⟨taken, dropped⟩ := takeWhile_digits all ended.head_not_digit
  have some : digits.isEmpty = false := List.isEmpty_eq_false_iff.mpr notEmpty
  rcases isSign with rfl | rfl | rfl
  · obtain ⟨first, more, rfl⟩ := List.exists_cons_of_ne_nil notEmpty
    have unsigned : ¬ (first = 0x2b ∨ first = 0x2d) := by
      have digit := all first List.mem_cons_self
      rintro (rfl | rfl) <;> cases digit
    simp only [List.nil_append, List.cons_append, skipNumber.exponent, if_neg unsigned]
    rw [← List.cons_append, taken, dropped, some]
    rfl
  · simp only [List.cons_append, List.nil_append, skipNumber.exponent, true_or, if_true, taken, dropped, some,
      Bool.false_eq_true, if_false]
  · simp only [List.cons_append, List.nil_append, skipNumber.exponent, or_true, if_true, taken, dropped, some,
      Bool.false_eq_true, if_false]

/-- What is left of a number after its digits, the fraction included. -/
theorem IsExponent.skipped {exponent rest : Octets} (isExponent : IsExponent exponent) (ended : Ended rest) :
    (exponent ++ rest = [] ∧ rest = []) ∨
      ∃ octet after, exponent ++ rest = octet :: after ∧ octet ≠ 0x2e ∧ isDigit octet = false ∧
        (if isExponentMark octet then skipNumber.exponent after else .ok (octet :: after)) = .ok rest := by
  cases isExponent with
  | none =>
    cases rest with
    | nil => exact .inl ⟨rfl, rfl⟩
    | cons octet after =>
      have notOn := ended octet rfl
      simp only [goesOn, Bool.or_eq_false_iff, beq_eq_false_iff_ne] at notOn
      obtain ⟨⟨noDigit, noPoint⟩, noMark⟩ := notOn
      refine .inr ⟨octet, after, rfl, noPoint, noDigit, ?_⟩
      rw [noMark]
      rfl
  | @some mark sign digits isMark isSign isDigits =>
    have read := skipNumber_exponent isSign isDigits ended
    refine .inr ⟨mark, sign ++ (digits ++ rest), by simp, ?_⟩
    rcases isMark with rfl | rfl <;> exact ⟨by decide, by decide, read⟩

theorem IsMagnitude.skipNumber {octets : Octets} (magnitude : IsMagnitude octets) {rest : Octets}
    (ended : Ended rest) : skipNumber (octets ++ rest) = .ok rest := by
  cases magnitude with
  | @parts whole fraction exponent isWhole isFraction isExponent =>
    have tail := isExponent.skipped ended
    have noDigit : ∀ octet, (exponent ++ rest).head? = some octet → isDigit octet = false := by
      obtain ⟨nothing, _⟩ | ⟨first, after, split, _, noDigit, _⟩ := tail
      · simp [nothing]
      · rw [split]
        rintro octet ⟨⟩
        exact noDigit
    have noDigit' : ∀ octet, (fraction ++ (exponent ++ rest)).head? = some octet → isDigit octet = false := by
      cases isFraction with
      | none => exact noDigit
      | some _ =>
        rintro octet ⟨⟩
        decide
    obtain ⟨taken, dropped⟩ := takeWhile_digits isWhole.1.2 noDigit'
    obtain ⟨first, more, rfl⟩ := List.exists_cons_of_ne_nil isWhole.1.1
    rw [List.append_assoc, List.append_assoc, Json.skipNumber, taken, dropped]
    simp only [if_neg isWhole.not_padded]
    cases isFraction with
    | none =>
      obtain ⟨nothing, rfl⟩ | ⟨octet, after, split, noPoint, _, read⟩ := tail
      · rw [List.nil_append, nothing]
      · rw [List.nil_append, split]
        simp only [noPoint, if_false, read]
    | @some fraction isDigits =>
      obtain ⟨notEmpty, all⟩ := isDigits
      obtain ⟨taken, dropped⟩ := takeWhile_digits all noDigit
      have some : fraction.isEmpty = false := List.isEmpty_eq_false_iff.mpr notEmpty
      simp only [List.cons_append, if_true, taken, dropped, some, Bool.false_eq_true, if_false]
      obtain ⟨nothing, rfl⟩ | ⟨octet, after, split, _, _, read⟩ := tail
      · rw [nothing]
      · rw [split]
        exact read

end SessionBoard.Json
