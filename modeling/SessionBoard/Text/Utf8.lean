namespace SessionBoard.Text.Utf8

def encode (text : List Char) : List UInt8 :=
  text.flatMap String.utf8EncodeChar

/-- The character at the start of the octets, if they start with a whole and well-formed one. -/
def head? (octets : List UInt8) : Option Char :=
  (octets.take 4).toByteArray.utf8DecodeChar? 0

/-- Reads on after `skip` octets that belong to the character read last. -/
def decodeFrom : Nat → List UInt8 → List Char × List UInt8
  | _, [] => ([], [])
  | skip + 1, _ :: rest => decodeFrom skip rest
  | 0, octet :: rest =>
    match head? (octet :: rest) with
    | some char =>
      let (text, held) := decodeFrom (char.utf8Size - 1) rest
      (char :: text, held)
    | none => ([], octet :: rest)

/-- The longest well-formed text at the start, and the octets from the first one that fits no character. So what
has arrived of a text can be read before the rest is there. Nothing is held back exactly when the octets are a
text. -/
def decodePrefix (octets : List UInt8) : List Char × List UInt8 :=
  decodeFrom 0 octets

def decode? (octets : List UInt8) : Option (List Char) :=
  match decodePrefix octets with
  | (text, []) => some text
  | (_, _ :: _) => none

end SessionBoard.Text.Utf8
