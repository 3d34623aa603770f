import SessionBoard.Text.Utf8

namespace SessionBoard.Json

open SessionBoard.Text

/-- Why octets are not the value asked for: they end inside it, they are no JSON, or they are JSON so far but
not of the type asked for. -/
inductive Fault
  | unfinished
  | malformed
  | mismatched
  deriving DecidableEq, Repr

abbrev Octets := List UInt8

/-- A reader takes the value at the start and leaves the rest, or tells the first fault that it meets. Octets
are read from left to right, into a type or passed over, with every check (`Care.strict`) or with the least
(`Care.lenient`). -/
abbrev Reader (α : Type) := Octets → Except Fault (α × Octets)

def isBlank (octet : UInt8) : Bool :=
  octet == 0x20 || octet == 0x0a || octet == 0x09 || octet == 0x0d

def skipBlank (octets : Octets) : Octets :=
  octets.dropWhile isBlank

def isDigit (octet : UInt8) : Bool :=
  0x30 ≤ octet && octet ≤ 0x39

def digitValue (octet : UInt8) : Nat :=
  octet.toNat - 0x30

/-- The rest of a word such as `true` after its first letter. -/
def word : List Char → Octets → Except Fault Octets
  | [], octets => .ok octets
  | _ :: _, [] => .error .unfinished
  | char :: more, octet :: rest =>
    if Char.ofUInt8 octet = char then word more rest else .error .malformed

def hexValue? (octet : UInt8) : Option Nat :=
  if isDigit octet then some (digitValue octet)
  else if 0x61 ≤ octet ∧ octet ≤ 0x66 then some (octet.toNat - 0x61 + 10)
  else if 0x41 ≤ octet ∧ octet ≤ 0x46 then some (octet.toNat - 0x41 + 10)
  else none

def hexUnit? (a b c d : UInt8) : Option Nat := do
  let a ← hexValue? a
  let b ← hexValue? b
  let c ← hexValue? c
  let d ← hexValue? d
  return ((a * 16 + b) * 16 + c) * 16 + d

/-- The character a single letter after a backslash stands for. -/
def escaped? (octet : UInt8) : Option Char :=
  match Char.ofUInt8 octet with
  | '"' => some '"'
  | '\\' => some '\\'
  | '/' => some '/'
  | 'b' => some '\x08'
  | 'f' => some '\x0c'
  | 'n' => some '\n'
  | 'r' => some '\r'
  | 't' => some '\t'
  | _ => none

def isHighSurrogate (unit : Nat) : Bool := 0xd800 ≤ unit && unit ≤ 0xdbff

def isLowSurrogate (unit : Nat) : Bool := 0xdc00 ≤ unit && unit ≤ 0xdfff

def pairedChar (high low : Nat) : Char :=
  Char.ofNat ((high - 0xd800) * 0x400 + (low - 0xdc00) + 0x10000)

def prepend (front : Octets) (result : Except Fault (Octets × Octets)) :
    Except Fault (Octets × Octets) :=
  result.map fun (octets, rest) => (front ++ octets, rest)

/-- The octets of a string after its opening quote, escapes resolved. Surrogates have to come in
pairs. -/
def stringOctets : Octets → Except Fault (Octets × Octets)
  | [] => .error .unfinished
  | octet :: rest =>
    if octet = 0x22 then .ok ([], rest)
    else if octet = 0x5c then
      match rest with
      | [] => .error .unfinished
      | letter :: rest =>
        match escaped? letter with
        | some char => prepend (String.utf8EncodeChar char) (stringOctets rest)
        | none =>
          if letter ≠ 0x75 then .error .malformed
          else match rest with
            | a :: b :: c :: d :: rest =>
              match hexUnit? a b c d with
              | none => .error .malformed
              | some unit =>
                if isLowSurrogate unit then .error .malformed
                else if isHighSurrogate unit then
                  match rest with
                  | [] => .error .unfinished
                  | backslash :: rest =>
                    if backslash ≠ 0x5c then .error .malformed
                    else match rest with
                      | [] => .error .unfinished
                      | letter :: rest =>
                        if letter ≠ 0x75 then .error .malformed
                        else match rest with
                          | a :: b :: c :: d :: rest =>
                            match hexUnit? a b c d with
                            | none => .error .malformed
                            | some low =>
                              if isLowSurrogate low then
                                prepend (String.utf8EncodeChar (pairedChar unit low))
                                  (stringOctets rest)
                              else .error .malformed
                          | _ => .error .unfinished
                else prepend (String.utf8EncodeChar (Char.ofNat unit)) (stringOctets rest)
            | _ => .error .unfinished
    else if octet < 0x20 then .error .malformed
    else prepend [octet] (stringOctets rest)

def stringAfterQuote : Reader String := fun octets => do
  let (octets, rest) ← stringOctets octets
  match Utf8.decode? octets with
  | some text => return (String.ofList text, rest)
  | none => throw .malformed

/-- Passes over a string after its opening quote. Only the form of its escapes is checked. -/
def skipString : Octets → Except Fault Octets
  | [] => .error .unfinished
  | octet :: rest =>
    if octet = 0x22 then .ok rest
    else if octet = 0x5c then
      match rest with
      | [] => .error .unfinished
      | letter :: rest =>
        match escaped? letter with
        | some _ => skipString rest
        | none =>
          if letter ≠ 0x75 then .error .malformed
          else match rest with
            | a :: b :: c :: d :: rest =>
              match hexUnit? a b c d with
              | none => .error .malformed
              | some _ => skipString rest
            | _ => .error .unfinished
    else if octet < 0x20 then .error .malformed
    else skipString rest

end SessionBoard.Json
