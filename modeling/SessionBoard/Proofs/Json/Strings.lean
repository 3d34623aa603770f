import SessionBoard.Json.Scan
import SessionBoard.Proofs.Text.Utf8

namespace SessionBoard.Json

open SessionBoard.Text

/-- A digit of base sixteen, small or capital. -/
inductive HexDigit : UInt8 → Nat → Prop
  | decimal {n : Nat} (bound : n < 10) : HexDigit (UInt8.ofNat (0x30 + n)) n
  | small {n : Nat} (bound : n < 6) : HexDigit (UInt8.ofNat (0x61 + n)) (10 + n)
  | capital {n : Nat} (bound : n < 6) : HexDigit (UInt8.ofNat (0x41 + n)) (10 + n)

/-- Four digits of base sixteen. -/
inductive HexUnit : Octets → Nat → Prop
  | digits {a b c d : UInt8} {i j k l : Nat} (first : HexDigit a i) (second : HexDigit b j)
      (third : HexDigit c k) (fourth : HexDigit d l) :
      HexUnit [a, b, c, d] (((i * 16 + j) * 16 + k) * 16 + l)

/-- The letters that stand for a character after a backslash. -/
def shortEscapes : List (Char × Char) :=
  [('"', '"'), ('\\', '\\'), ('/', '/'), ('b', '\x08'), ('f', '\x0c'), ('n', '\n'), ('r', '\r'), ('t', '\t')]

/-- A way to write a character between quotes. -/
inductive Spelling (char : Char) : Octets → Prop
  | plain (printable : 0x20 ≤ char.toNat) (noQuote : char ≠ '"') (noBackslash : char ≠ '\\') :
      Spelling char (String.utf8EncodeChar char)
  | short {letter : Char} (known : (letter, char) ∈ shortEscapes) :
      Spelling char (0x5c :: String.utf8EncodeChar letter)
  | unit {digits : Octets} (unit : HexUnit digits char.toNat) : Spelling char (0x5c :: 0x75 :: digits)
  /-- A character that no unit of sixteen bits can hold takes a pair of them. -/
  | pair {first second : Octets} (beyond : 0x10000 ≤ char.toNat)
      (high : HexUnit first (0xd800 + (char.toNat - 0x10000) / 0x400))
      (low : HexUnit second (0xdc00 + (char.toNat - 0x10000) % 0x400)) :
      Spelling char (0x5c :: 0x75 :: (first ++ 0x5c :: 0x75 :: second))

/-- A way to write a text between quotes, each character in any of its ways. All of them are read as that text.
-/
inductive Spells : List Char → Octets → Prop
  | nil : Spells [] []
  | cons {char : Char} {octets : Octets} {text : List Char} {rest : Octets} (first : Spelling char octets)
      (others : Spells text rest) : Spells (char :: text) (octets ++ rest)

/-- A string with its quotes. -/
inductive StringText (text : String) : Octets → Prop
  | quoted {inside : Octets} (spelled : Spells text.toList inside) : StringText text (0x22 :: (inside ++ [0x22]))

/-- What may stand between quotes by its form alone. It need not be text. -/
inductive Unread : Octets → Prop
  | nil : Unread []
  | plain {octet : UInt8} {rest : Octets} (printable : 0x20 ≤ octet) (noQuote : octet ≠ 0x22)
      (noBackslash : octet ≠ 0x5c) (others : Unread rest) : Unread (octet :: rest)
  | short {letter char : Char} {rest : Octets} (known : (letter, char) ∈ shortEscapes) (others : Unread rest) :
      Unread (0x5c :: (String.utf8EncodeChar letter ++ rest))
  | unit {digits rest : Octets} {n : Nat} (unit : HexUnit digits n) (others : Unread rest) :
      Unread (0x5c :: 0x75 :: (digits ++ rest))

/-- A string of which nobody wants to know the text. -/
inductive UnreadString : Octets → Prop
  | quoted {inside : Octets} (unread : Unread inside) : UnreadString (0x22 :: (inside ++ [0x22]))

theorem HexDigit.hexValue? {octet : UInt8} {n : Nat} (digit : HexDigit octet n) : hexValue? octet = some n := by
  cases digit with
  | @decimal n bound => revert bound; revert n; decide
  | @small n bound => revert bound; revert n; decide
  | @capital n bound => revert bound; revert n; decide

theorem HexUnit.hexUnit? {digits : Octets} {n : Nat} (unit : HexUnit digits n) :
    ∃ a b c d, digits = [a, b, c, d] ∧ hexUnit? a b c d = some n := by
  cases unit with
  | @digits a b c d i j k l first second third fourth =>
    refine ⟨a, b, c, d, rfl, ?_⟩
    simp [Json.hexUnit?, first.hexValue?, second.hexValue?, third.hexValue?, fourth.hexValue?]

theorem escaped?_of_short {letter char : Char} (known : (letter, char) ∈ shortEscapes) :
    ∃ octet, String.utf8EncodeChar letter = [octet] ∧ escaped? octet = some char := by
  simp only [shortEscapes, List.mem_cons, Prod.mk.injEq, List.not_mem_nil, or_false] at known
  rcases known with ⟨rfl, rfl⟩ | ⟨rfl, rfl⟩ | ⟨rfl, rfl⟩ | ⟨rfl, rfl⟩ | ⟨rfl, rfl⟩ | ⟨rfl, rfl⟩ | ⟨rfl, rfl⟩ |
    ⟨rfl, rfl⟩
  all_goals exact ⟨_, rfl, rfl⟩

/-- An octet between quotes that stands for itself. -/
def Plain (octet : UInt8) : Prop :=
  0x20 ≤ octet ∧ octet ≠ 0x22 ∧ octet ≠ 0x5c

theorem stringOctets_quote (rest : Octets) : stringOctets (0x22 :: rest) = .ok ([], rest) := by
  rw [stringOctets.eq_def]
  rfl

theorem stringOctets_plain {octets : Octets} (plain : ∀ octet ∈ octets, Plain octet) (rest : Octets) :
    stringOctets (octets ++ rest) = prepend octets (stringOctets rest) := by
  induction octets with
  | nil => cases read : stringOctets rest <;> simp [prepend, read, Except.map]
  | cons octet octets ih =>
    obtain ⟨⟨printable, noQuote, noBackslash⟩, others⟩ := List.forall_mem_cons.mp plain
    have step : stringOctets (octet :: (octets ++ rest)) = prepend [octet] (stringOctets (octets ++ rest)) := by
      rw [stringOctets.eq_def]
      exact (if_neg noQuote).trans ((if_neg noBackslash).trans (if_neg (UInt8.not_lt.mpr printable)))
    rw [List.cons_append, step, ih others]
    cases stringOctets rest <;> rfl

theorem stringOctets_short {letter : UInt8} {char : Char} (known : escaped? letter = some char) (rest : Octets) :
    stringOctets (0x5c :: letter :: rest) = prepend (String.utf8EncodeChar char) (stringOctets rest) := by
  rw [stringOctets.eq_def]
  simp [known]

theorem escaped?_unit : escaped? 0x75 = none :=
  rfl

theorem stringOctets_unit {a b c d : UInt8} {unit : Nat} (value : hexUnit? a b c d = some unit)
    (notLow : isLowSurrogate unit = false) (notHigh : isHighSurrogate unit = false) (rest : Octets) :
    stringOctets (0x5c :: 0x75 :: a :: b :: c :: d :: rest) =
      prepend (String.utf8EncodeChar (Char.ofNat unit)) (stringOctets rest) := by
  rw [stringOctets.eq_def]
  simp [escaped?_unit, value, notLow, notHigh]

theorem stringOctets_pair {a b c d e f g h : UInt8} {high low : Nat} (first : hexUnit? a b c d = some high)
    (second : hexUnit? e f g h = some low) (isHigh : isHighSurrogate high = true)
    (isLow : isLowSurrogate low = true) (rest : Octets) :
    stringOctets (0x5c :: 0x75 :: a :: b :: c :: d :: 0x5c :: 0x75 :: e :: f :: g :: h :: rest) =
      prepend (String.utf8EncodeChar (pairedChar high low)) (stringOctets rest) := by
  have notLow : isLowSurrogate high = false := by
    simp only [isHighSurrogate, isLowSurrogate, Bool.and_eq_true, decide_eq_true_eq, Bool.and_eq_false_iff,
      decide_eq_false_iff_not] at isHigh ⊢
    omega
  rw [stringOctets.eq_def]
  simp [escaped?_unit, first, second, isHigh, isLow, notLow]

theorem plain_ofNat {n : Nat} (bound : n < 0x100) (printable : 0x20 ≤ n) (noQuote : n ≠ 0x22)
    (noBackslash : n ≠ 0x5c) : Plain (UInt8.ofNat n) := by
  have value : (UInt8.ofNat n).toNat = n := UInt8.toNat_ofNat_of_lt' bound
  refine ⟨UInt8.le_iff_toNat_le.mpr ?_, fun same => noQuote ?_, fun same => noBackslash ?_⟩
  · rw [value]
    exact printable
  · rw [← value, same]
    rfl
  · rw [← value, same]
    rfl

theorem plain_high {n : Nat} (bound : n < 0x100) (high : 0x80 ≤ n) : Plain (UInt8.ofNat n) :=
  plain_ofNat bound (by omega) (by omega) (by omega)

/-- Only the first 128 characters have octets that mean something between quotes. -/
theorem plain_of_char {char : Char} (printable : 0x20 ≤ char.toNat) (noQuote : char ≠ '"')
    (noBackslash : char ≠ '\\') : ∀ octet ∈ String.utf8EncodeChar char, Plain octet := by
  have notQuote : char.toNat ≠ 0x22 := fun same => noQuote (Char.toNat_inj.mp same)
  have notBackslash : char.toNat ≠ 0x5c := fun same => noBackslash (Char.toNat_inj.mp same)
  have value : char.val.toNat = char.toNat := rfl
  simp only [String.utf8EncodeChar, value]
  split
  · exact List.forall_mem_singleton.mpr (plain_ofNat (by omega) printable notQuote notBackslash)
  split
  · exact List.forall_mem_cons.mpr ⟨plain_high (by omega) (by omega),
      List.forall_mem_singleton.mpr (plain_high (by omega) (by omega))⟩
  split
  · exact List.forall_mem_cons.mpr ⟨plain_high (by omega) (by omega),
      List.forall_mem_cons.mpr ⟨plain_high (by omega) (by omega),
        List.forall_mem_singleton.mpr (plain_high (by omega) (by omega))⟩⟩
  · exact List.forall_mem_cons.mpr ⟨plain_high (by omega) (by omega),
      List.forall_mem_cons.mpr ⟨plain_high (by omega) (by omega),
        List.forall_mem_cons.mpr ⟨plain_high (by omega) (by omega),
          List.forall_mem_singleton.mpr (plain_high (by omega) (by omega))⟩⟩⟩

theorem not_surrogate (char : Char) :
    isLowSurrogate char.toNat = false ∧ isHighSurrogate char.toNat = false := by
  have valid : char.toNat < 0xd800 ∨ 0xdfff < char.toNat ∧ char.toNat < 0x110000 := char.valid
  simp only [isHighSurrogate, isLowSurrogate, Bool.and_eq_false_iff, decide_eq_false_iff_not]
  omega

/-- However a character is written, it is read as itself. -/
theorem Spelling.stringOctets {char : Char} {octets : Octets} (spelling : Spelling char octets) (rest : Octets) :
    stringOctets (octets ++ rest) = prepend (String.utf8EncodeChar char) (stringOctets rest) := by
  cases spelling with
  | plain printable noQuote noBackslash => exact stringOctets_plain (plain_of_char printable noQuote noBackslash) rest
  | short known =>
    obtain ⟨octet, same, found⟩ := escaped?_of_short known
    rw [same]
    exact stringOctets_short found rest
  | unit unit =>
    obtain ⟨a, b, c, d, rfl, value⟩ := unit.hexUnit?
    obtain ⟨notLow, notHigh⟩ := not_surrogate char
    have read := stringOctets_unit value notLow notHigh rest
    rwa [Char.ofNat_toNat] at read
  | pair beyond high low =>
    obtain ⟨a, b, c, d, rfl, first⟩ := high.hexUnit?
    obtain ⟨e, f, g, h, rfl, second⟩ := low.hexUnit?
    have bound : char.toNat < 0x110000 := char.valid.elim (fun below => Nat.lt_trans below (by decide)) And.right
    have same : pairedChar (0xd800 + (char.toNat - 0x10000) / 0x400) (0xdc00 + (char.toNat - 0x10000) % 0x400) =
        char := by
      have value : (0xd800 + (char.toNat - 0x10000) / 0x400 - 0xd800) * 0x400 +
          (0xdc00 + (char.toNat - 0x10000) % 0x400 - 0xdc00) + 0x10000 = char.toNat := by omega
      rw [pairedChar, value, Char.ofNat_toNat]
    have read := stringOctets_pair first second
      (by simp only [isHighSurrogate, Bool.and_eq_true, decide_eq_true_eq]; omega)
      (by simp only [isLowSurrogate, Bool.and_eq_true, decide_eq_true_eq]; omega) rest
    rwa [same] at read

/-- A text is read as it was, however it is written. -/
theorem Spells.stringOctets {text : List Char} {inside : Octets} (spells : Spells text inside) (rest : Octets) :
    stringOctets (inside ++ 0x22 :: rest) = .ok (Utf8.encode text, rest) := by
  induction spells with
  | nil => exact stringOctets_quote rest
  | @cons char octets text others first _ ih =>
    rw [List.append_assoc, first.stringOctets, ih, Utf8.encode_cons]
    rfl

theorem StringText.stringAfterQuote {text : String} {octets : Octets} (written : StringText text octets) :
    ∃ inside, octets = 0x22 :: inside ∧ ∀ rest, stringAfterQuote (inside ++ rest) = .ok (text, rest) := by
  cases written with
  | @quoted inside spelled =>
    refine ⟨_, rfl, fun rest => ?_⟩
    have read := spelled.stringOctets rest
    rw [List.append_assoc, List.singleton_append, Json.stringAfterQuote, read]
    simp only [bind, Except.bind, Utf8.decode?_encode, String.ofList_toList]
    rfl

theorem skipString_quote (rest : Octets) : skipString (0x22 :: rest) = .ok rest := by
  rw [skipString.eq_def]
  rfl

theorem skipString_plain {octet : UInt8} (plain : Plain octet) (rest : Octets) :
    skipString (octet :: rest) = skipString rest := by
  obtain ⟨printable, noQuote, noBackslash⟩ := plain
  rw [skipString.eq_def]
  exact (if_neg noQuote).trans ((if_neg noBackslash).trans (if_neg (UInt8.not_lt.mpr printable)))

theorem skipString_short {letter : UInt8} {char : Char} (known : escaped? letter = some char) (rest : Octets) :
    skipString (0x5c :: letter :: rest) = skipString rest := by
  rw [skipString.eq_def]
  simp [known]

theorem skipString_unit {a b c d : UInt8} {unit : Nat} (value : hexUnit? a b c d = some unit) (rest : Octets) :
    skipString (0x5c :: 0x75 :: a :: b :: c :: d :: rest) = skipString rest := by
  rw [skipString.eq_def]
  simp [escaped?_unit, value]

theorem Unread.skipString {inside : Octets} (unread : Unread inside) (rest : Octets) :
    skipString (inside ++ 0x22 :: rest) = .ok rest := by
  induction unread with
  | nil => exact skipString_quote rest
  | plain printable noQuote noBackslash _ ih =>
    exact (skipString_plain ⟨printable, noQuote, noBackslash⟩ _).trans ih
  | short known _ ih =>
    obtain ⟨octet, same, found⟩ := escaped?_of_short known
    rw [same]
    exact (skipString_short found _).trans ih
  | unit unit _ ih =>
    obtain ⟨a, b, c, d, rfl, value⟩ := unit.hexUnit?
    exact (skipString_unit value _).trans ih

theorem UnreadString.skipString {octets : Octets} (written : UnreadString octets) :
    ∃ inside, octets = 0x22 :: inside ∧ ∀ rest, skipString (inside ++ rest) = .ok rest := by
  cases written with
  | @quoted inside unread =>
    refine ⟨_, rfl, fun rest => ?_⟩
    rw [List.append_assoc, List.singleton_append, unread.skipString]

end SessionBoard.Json
