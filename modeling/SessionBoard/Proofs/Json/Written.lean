import SessionBoard.Session.Writing
import SessionBoard.Proofs.Json.Layout
import SessionBoard.Proofs.Json.Strings

namespace SessionBoard.Json

open SessionBoard.Text

theorem hexDigit_written {n : Nat} (bound : n < 16) :
    ∃ octet, String.utf8EncodeChar (hexDigit n) = [octet] ∧ HexDigit octet n := by
  by_cases small : n < 10
  · refine ⟨UInt8.ofNat (0x30 + n), ?_, .decimal small⟩
    revert n
    decide
  · obtain ⟨k, rfl⟩ := Nat.exists_eq_add_of_le (Nat.not_lt.mp small)
    refine ⟨UInt8.ofNat (0x61 + k), ?_, .small (by omega)⟩
    have few : k < 6 := by omega
    clear small bound
    revert k
    decide

theorem spelling_control {char : Char} (control : char.toNat < 0x20) :
    Spelling char (Utf8.encode ['\\', 'u', '0', '0', hexDigit (char.toNat / 16), hexDigit (char.toNat % 16)]) := by
  obtain ⟨a, highWritten, high⟩ := hexDigit_written (by omega : char.toNat / 16 < 16)
  obtain ⟨b, lowWritten, low⟩ := hexDigit_written (by omega : char.toNat % 16 < 16)
  have zero : HexDigit 0x30 0 := .decimal (show 0 < 10 by decide)
  have unit := HexUnit.digits zero zero high low
  have value : ((0 * 16 + 0) * 16 + char.toNat / 16) * 16 + char.toNat % 16 = char.toNat := by omega
  rw [value] at unit
  have octets : Utf8.encode ['\\', 'u', '0', '0', hexDigit (char.toNat / 16), hexDigit (char.toNat % 16)] =
      0x5c :: 0x75 :: [0x30, 0x30, a, b] := by
    simp only [Utf8.encode, List.flatMap_cons, List.flatMap_nil, highWritten, lowWritten]
    rfl
  rw [octets]
  exact .unit unit

theorem spelling_short {letter char : Char} (known : (letter, char) ∈ shortEscapes) :
    Spelling char (Utf8.encode ['\\', letter]) := by
  have octets : Utf8.encode ['\\', letter] = 0x5c :: String.utf8EncodeChar letter := by
    rw [Utf8.encode_cons, Utf8.encode_cons, Utf8.encode_nil, List.append_nil]
    rfl
  rw [octets]
  exact .short known

theorem spelling_escape (char : Char) : Spelling char (Utf8.encode (escape char)) := by
  unfold escape
  split
  iterate 7 exact spelling_short (by decide)
  rename_i noQuote noBackslash _ _ _ _ _
  split
  · rename_i control
    exact spelling_control control
  · rename_i printable
    rw [Utf8.encode_cons, Utf8.encode_nil, List.append_nil]
    exact .plain (Nat.not_lt.mp printable) noQuote noBackslash

theorem spells_escaped (text : List Char) : Spells text (Utf8.encode (text.flatMap escape)) := by
  induction text with
  | nil => exact .nil
  | cons char text ih =>
    rw [List.flatMap_cons, Utf8.encode_append]
    exact .cons (spelling_escape char) ih

/-- A text between quotes is one of the ways to write it. -/
theorem stringText_quote (text : String) : StringText text (Utf8.encode (quote text)) := by
  have octets : Utf8.encode (quote text) = 0x22 :: (Utf8.encode (text.toList.flatMap escape) ++ [0x22]) := by
    rw [quote, List.cons_append, Utf8.encode_cons, Utf8.encode_append]
    rfl
  rw [octets]
  exact .quoted (spells_escaped text.toList)

variable {α : Type} {Item : α → Octets → Prop} {write : α → List Char} {lead trail : List Char}

theorem listed_joinWith (blank : Blank (Utf8.encode lead)) (blank' : Blank (Utf8.encode trail)) {item : α}
    {items : List α} (written : ∀ other ∈ item :: items, Item other (Utf8.encode (write other))) {first : Bool}
    {parting : Octets} (parted : Parting first parting) :
    Listed Item first (item :: items)
      (parting ++ (Utf8.encode (joinWith (',' :: lead) ((item :: items).map write)) ++ Utf8.encode trail)) := by
  induction items generalizing item first parting with
  | nil => exact .item parted (written item List.mem_cons_self) (.none blank')
  | cons next items ih =>
    obtain ⟨head, others⟩ := List.forall_mem_cons.mp written
    have comma : Parting false (Utf8.encode (',' :: lead)) := @Parting.next [] _ Blank.nil blank
    have tail := ih others comma
    have octets : Utf8.encode (joinWith (',' :: lead) ((item :: next :: items).map write)) =
        Utf8.encode (write item) ++ (Utf8.encode (',' :: lead) ++
          Utf8.encode (joinWith (',' :: lead) ((next :: items).map write))) := by
      simp only [List.map_cons, joinWith, Utf8.encode_append, List.append_assoc]
    rw [octets, List.append_assoc, List.append_assoc]
    exact .item parted head tail

/-- Items with a comma between neighbours and blanks around each of them, in brackets or braces. -/
theorem enclosed_joinWith (blank : Blank (Utf8.encode lead)) (blank' : Blank (Utf8.encode trail))
    {opening closing : Char} {item : α} {items : List α}
    (written : ∀ other ∈ item :: items, Item other (Utf8.encode (write other)))
    {open' close' : UInt8} (opens : String.utf8EncodeChar opening = [open'])
    (closes : String.utf8EncodeChar closing = [close']) :
    Enclosed Item open' close' (item :: items)
      (Utf8.encode
        (opening :: lead ++ joinWith (',' :: lead) ((item :: items).map write) ++ trail ++ [closing])) := by
  have listed := listed_joinWith blank blank' written (.first blank)
  have octets : Utf8.encode
      (opening :: lead ++ joinWith (',' :: lead) ((item :: items).map write) ++ trail ++ [closing]) =
        open' :: (Utf8.encode lead ++
          (Utf8.encode (joinWith (',' :: lead) ((item :: items).map write)) ++ Utf8.encode trail) ++ [close']) := by
    simp only [List.cons_append, Utf8.encode_cons, Utf8.encode_append, Utf8.encode_nil, opens, closes,
      List.append_assoc, List.nil_append]
  rw [octets]
  exact .between listed

end SessionBoard.Json
