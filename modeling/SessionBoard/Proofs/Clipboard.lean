import Mathlib.Data.List.Basic
import SessionBoard.Clipboard
import SessionBoard.Proofs.Text.Base64
import SessionBoard.Proofs.Text.Utf8
import SessionBoard.Text.Width

namespace SessionBoard.Clipboard

open SessionBoard.Text

variable {text : List Char}

/-- The characters that may stand in a control sequence without ending it. -/
def isInside (char : Char) : Bool := !Width.isControl char

/-- The start of a sequence for the clipboard. -/
def opening : List Char := ['\x1b', ']', '5', '2', ';', 'c', ';']

/-- The end of any control sequence. -/
def closing : List Char := ['\x1b', '\\']

/-- What a terminal takes from a stream: the text for its clipboard, and the rest of the stream. The text
ends at the first control. -/
def receive? (stream : List Char) : Option (List Char × List Char) := do
  let body ← stream.dropPrefix? opening
  let rest ← (body.dropWhile isInside).dropPrefix? closing
  let octets ← Base64.decode? (body.takeWhile isInside)
  return (← Utf8.decode? octets, rest)

theorem sequence_eq (text : List Char) :
    sequence text = opening ++ Base64.encode (Utf8.encode text) ++ closing :=
  rfl

theorem isInside_of_mem_opening : ∀ char ∈ opening.tail, isInside char :=
  List.all_eq_true.mp (by decide)

theorem isInside_of_mem_alphabet : ∀ char ∈ Base64.alphabet, isInside char :=
  List.all_eq_true.mp (by decide)

theorem isInside_of_mem_encode {octets : List UInt8} : ∀ char ∈ Base64.encode octets, isInside char := by
  obtain ⟨letters, written, members⟩ := Base64.encode_eq_letters octets
  intro char member
  rw [written, List.mem_append] at member
  rcases member with letter | sign
  · exact isInside_of_mem_alphabet char (members char letter)
  · rw [List.eq_of_mem_replicate sign]
    decide

/-- A terminal takes the text from the sequence and goes on with what comes after it. -/
theorem receive?_sequence (text later : List Char) : receive? (sequence text ++ later) = some (text, later) := by
  have stop : isInside '\x1b' = false := by decide
  have whole : sequence text ++ later =
      opening ++ (Base64.encode (Utf8.encode text) ++ (closing ++ later)) := by
    rw [sequence_eq, List.append_assoc, List.append_assoc]
  have inside : (Base64.encode (Utf8.encode text) ++ (closing ++ later)).takeWhile isInside =
      Base64.encode (Utf8.encode text) := by
    rw [List.takeWhile_append_of_pos isInside_of_mem_encode, closing, List.cons_append,
      List.takeWhile_cons_of_neg (by simp [stop]), List.append_nil]
  have outside : (Base64.encode (Utf8.encode text) ++ (closing ++ later)).dropWhile isInside =
      closing ++ later := by
    rw [List.dropWhile_append_of_pos isInside_of_mem_encode, closing, List.cons_append,
      List.dropWhile_cons_of_neg (by simp [stop])]
  simp only [receive?, whole, List.dropPrefix?_append_of_beq _ (beq_self_eq_true _), Option.bind_eq_bind,
    Option.bind_some, outside, inside, Base64.decode?_encode, Utf8.decode?_encode, Option.pure_def]

/-- The stream is one control sequence, and it carries the text to the clipboard. -/
structure Carries (stream text : List Char) : Prop where
  /-- Between the start and the end stands the text in base64. -/
  framed : ∃ letters padding, stream = opening ++ (letters ++ padding) ++ closing ∧
    (∀ char ∈ letters, char ∈ Base64.alphabet) ∧
    padding = List.replicate ((3 - (Utf8.encode text).length % 3) % 3) '=' ∧
    (letters ++ padding).length = 4 * (((Utf8.encode text).length + 2) / 3) ∧
    Base64.decode? (letters ++ padding) = some (Utf8.encode text)
  /-- No control stands in it but the two that start it and end it. -/
  controls : ∃ inside, stream = '\x1b' :: (inside ++ ['\x1b', '\\']) ∧
    ∀ char ∈ inside ++ ['\\'], Width.isControl char = false
  received : ∀ later, receive? (stream ++ later) = some (text, later)

theorem carries_sequence (text : List Char) : Carries (sequence text) text where
  framed := by
    obtain ⟨letters, written, members⟩ := Base64.encode_eq_letters (Utf8.encode text)
    refine ⟨letters, _, ?_, members, rfl, ?_, ?_⟩
    · rw [sequence_eq, written]
      rfl
    · rw [← Base64.length_encode, written]
      rfl
    · rw [← Base64.decode?_encode, written]
      rfl
  controls := by
    refine ⟨opening.tail ++ Base64.encode (Utf8.encode text), ?_, fun char member => ?_⟩
    · rw [sequence_eq]
      rfl
    · rw [← Bool.not_eq_true']
      rcases List.mem_append.mp member with body | last
      · rcases List.mem_append.mp body with start | letter
        · exact isInside_of_mem_opening char start
        · exact isInside_of_mem_encode char letter
      · rw [List.mem_singleton.mp last]
        decide
  received := receive?_sequence text

/-- Whatever the text is, it arrives at the clipboard as it was, and nothing of it anywhere else: no text can
end the sequence that carries it, and no two texts have the same one. -/
theorem sequence_lossless : (∀ text, Carries (sequence text) text) ∧ Function.Injective sequence := by
  refine ⟨carries_sequence, fun text other same => ?_⟩
  have received := receive?_sequence text []
  rw [same, receive?_sequence other []] at received
  exact (congrArg Prod.fst (Option.some.inj received)).symm

example : receive? (sequence "\x1b\\\x07né".toList ++ ['q']) = some ("\x1b\\\x07né".toList, ['q']) := by
  decide

end SessionBoard.Clipboard
