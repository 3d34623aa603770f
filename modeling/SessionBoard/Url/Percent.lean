import SessionBoard.Text.Utf8

namespace SessionBoard.Url

def hexDigit (n : Nat) : Char :=
  if n < 10 then Char.ofNat (0x30 + n) else Char.ofNat (0x41 + (n - 10))

def escapeOctet (octet : UInt8) : List Char :=
  ['%', hexDigit (octet.toNat / 16), hexDigit (octet.toNat % 16)]

/-- Controls and all characters beyond ASCII are escaped everywhere. -/
def isHidden (char : Char) : Bool := char.toNat < 0x20 || 0x7f ≤ char.toNat

/-- The text with the characters that cannot be shown and those named written as octets, each a percent sign and
two hexadecimal digits. -/
def escape (named : List Char) (text : List Char) : List Char :=
  text.flatMap fun char =>
    if isHidden char || named.contains char then
      (String.utf8EncodeChar char).flatMap escapeOctet
    else [char]

def fragmentEscapes : List Char := [' ', '"', '<', '>', '\x60']

def pathEscapes : List Char := fragmentEscapes ++ ['#', '?', '\x7b', '\x7d']

def userEscapes : List Char :=
  pathEscapes ++ ['/', ':', ';', '=', '@', '[', '\\', ']', '^', '|']

def queryEscapes : List Char := [' ', '"', '#', '<', '>', '\'']

def hexValue? (octet : UInt8) : Option Nat :=
  let n := octet.toNat
  if 0x30 ≤ n ∧ n ≤ 0x39 then some (n - 0x30)
  else if 0x41 ≤ n ∧ n ≤ 0x46 then some (n - 0x41 + 10)
  else if 0x61 ≤ n ∧ n ≤ 0x66 then some (n - 0x61 + 10)
  else none

/-- Resolves escapes. A percent sign without two digits behind it stands for itself. -/
def unescape : List UInt8 → List UInt8
  | [] => []
  | [a] => [a]
  | [a, b] => [a, b]
  | percent :: high :: low :: rest =>
    if percent = 0x25 then
      match hexValue? high, hexValue? low with
      | some high, some low => UInt8.ofNat (high * 16 + low) :: unescape rest
      | _, _ => percent :: unescape (high :: low :: rest)
    else percent :: unescape (high :: low :: rest)

end SessionBoard.Url
