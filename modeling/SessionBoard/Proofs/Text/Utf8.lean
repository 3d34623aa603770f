import SessionBoard.Text.Utf8

namespace SessionBoard.Text.Utf8

variable {octets : List UInt8} {char : Char}

/-- A whole character is not affected by what follows it. -/
theorem head?_append (found : head? octets = some char) (later : List UInt8) :
    head? (octets ++ later) = some char := by
  unfold head? at found ⊢
  rw [List.take_append, List.toByteArray_append]
  exact ByteArray.utf8DecodeChar?_append_eq_some found _

theorem utf8Size_le_length (found : head? octets = some char) : char.utf8Size ≤ octets.length := by
  have bound := ByteArray.le_size_of_utf8DecodeChar?_eq_some found
  rw [List.size_toByteArray, List.length_take] at bound
  omega

theorem decodeFrom_eq (skip : Nat) (octets : List UInt8) :
    decodeFrom skip octets = decodePrefix (octets.drop skip) := by
  induction octets generalizing skip with
  | nil =>
    rw [List.drop_nil]
    cases skip <;> rfl
  | cons octet rest ih =>
    cases skip with
    | zero => rfl
    | succ skip => exact ih skip

theorem decodePrefix_of_some (found : head? octets = some char) :
    decodePrefix octets =
      (char :: (decodePrefix (octets.drop char.utf8Size)).1,
        (decodePrefix (octets.drop char.utf8Size)).2) := by
  have positive := char.utf8Size_pos
  have bound := utf8Size_le_length found
  cases octets with
  | nil =>
    rw [List.length_nil] at bound
    omega
  | cons octet rest =>
    have others : (octet :: rest).drop char.utf8Size = rest.drop (char.utf8Size - 1) :=
      List.drop_cons positive
    rw [others, ← decodeFrom_eq, decodePrefix, decodeFrom, found]

theorem decodePrefix_of_none (nothing : head? octets = none) : decodePrefix octets = ([], octets) := by
  cases octets with
  | nil => rfl
  | cons octet rest => rw [decodePrefix, decodeFrom, nothing]

/-- Octets may be read in two parts, if what the first part holds back is put before the second one. -/
theorem decodePrefix_append (octets later : List UInt8) :
    decodePrefix (octets ++ later) =
      ((decodePrefix octets).1 ++ (decodePrefix ((decodePrefix octets).2 ++ later)).1,
        (decodePrefix ((decodePrefix octets).2 ++ later)).2) := by
  cases found : head? octets with
  | none =>
    -- All of the first part is held back.
    rw [decodePrefix_of_none found]
    rfl
  | some char =>
    have rest : (octets ++ later).drop char.utf8Size = octets.drop char.utf8Size ++ later :=
      List.drop_append_of_le_length (utf8Size_le_length found)
    rw [decodePrefix_of_some (head?_append found later), rest,
      decodePrefix_append (octets.drop char.utf8Size) later, decodePrefix_of_some found]
    rfl
termination_by octets.length
decreasing_by
  have positive := char.utf8Size_pos
  have bound := utf8Size_le_length found
  rw [List.length_drop]
  omega

/-- Nothing can be read of what is held back. -/
theorem decodePrefix_held (octets : List UInt8) :
    decodePrefix (decodePrefix octets).2 = ([], (decodePrefix octets).2) := by
  have again := decodePrefix_append octets []
  rw [List.append_nil, List.append_nil] at again
  have text := congrArg Prod.fst again
  have held := congrArg Prod.snd again
  exact Prod.ext (List.self_eq_append_right.mp text) held.symm

theorem encode_nil : encode [] = [] :=
  rfl

theorem encode_cons (char : Char) (text : List Char) :
    encode (char :: text) = String.utf8EncodeChar char ++ encode text :=
  List.flatMap_cons

theorem encode_append (text more : List Char) : encode (text ++ more) = encode text ++ encode more :=
  List.flatMap_append

theorem head?_encode (char : Char) (later : List UInt8) :
    head? (String.utf8EncodeChar char ++ later) = some char := by
  have short : (String.utf8EncodeChar char).length ≤ 4 := by
    rw [String.length_utf8EncodeChar]
    exact char.utf8Size_le_four
  have alone : head? (String.utf8EncodeChar char) = some char := by
    have decoded := ByteArray.utf8DecodeChar?_utf8EncodeChar_append (b := ByteArray.empty) (c := char)
    rw [ByteArray.append_empty] at decoded
    rw [head?, List.take_of_length_le short]
    exact decoded
  exact head?_append alone later

/-- What was written as a text is read as that text. -/
theorem decodePrefix_encode (text : List Char) : decodePrefix (encode text) = (text, []) := by
  induction text with
  | nil => rfl
  | cons char text ih =>
    have rest : (encode (char :: text)).drop char.utf8Size = encode text := by
      rw [encode_cons, ← String.length_utf8EncodeChar, List.drop_left]
    have found : head? (encode (char :: text)) = some char := head?_encode char (encode text)
    rw [decodePrefix_of_some found, rest, ih]

theorem decode?_encode (text : List Char) : decode? (encode text) = some text := by
  rw [decode?, decodePrefix_encode]

end SessionBoard.Text.Utf8
