import SessionBoard.Url.Percent

namespace SessionBoard.Url

def digitValue? (char : Char) : Option Nat :=
  if char.toNat < 0x80 then hexValue? (UInt8.ofNat char.toNat) else none

/-- The number that digits of this base spell. No digits spell zero. -/
def numberIn? (base : Nat) (digits : List Char) : Option Nat :=
  digits.foldlM (fun number char => do
    let value ← digitValue? char
    if value < base then some (number * base + value) else none) 0

def isDigits (text : List Char) : Bool := !text.isEmpty && text.all Char.isDigit

def octetNumber? : List Char → Option Nat
  | [] => none
  | ['0'] => some 0
  | '0' :: 'x' :: digits => numberIn? 16 digits
  | '0' :: 'X' :: digits => numberIn? 16 digits
  | '0' :: digits => numberIn? 8 digits
  | digits => numberIn? 10 digits

/-- The parts between points. A point at the end closes the last part. -/
def pointParts (text : List Char) : List (List Char) :=
  let parts := text.splitOn '.'
  if parts.length > 1 ∧ parts.getLast? = some [] then parts.dropLast else parts

/-- Whether a host that ends so has to be an address of four octets. -/
def endsInNumber (host : List Char) : Bool :=
  match (pointParts host).getLast? with
  | some last => isDigits last || (octetNumber? last).isSome
  | none => false

/-- The address as one number. All parts but the last are one octet each. -/
def fourOctets? (host : List Char) : Option Nat := do
  let numbers ← (pointParts host).mapM octetNumber?
  let front := numbers.dropLast
  let last ← numbers.getLast?
  if front.length ≤ 3 ∧ front.all (· ≤ 255) ∧ last < Nat.pow 256 (4 - front.length) then
    let leading := front.foldl (fun address octet => address * 256 + octet) 0
    some (leading * Nat.pow 256 (4 - front.length) + last)
  else none

def writeFourOctets (address : Nat) : List Char :=
  List.intercalate ['.'] ([3, 2, 1, 0].map fun place =>
    (toString (address / Nat.pow 256 place % 256)).toList)

def plainOctet? (text : List Char) : Option Nat :=
  if isDigits text ∧ (text.length = 1 ∨ text.head? ≠ some '0') then
    (numberIn? 10 text).filter (· ≤ 255)
  else none

/-- Two pieces written as four octets. -/
def octetPieces? (text : List Char) : Option (List Nat) := do
  match ← (text.splitOn '.').mapM plainOctet? with
  | [a, b, c, d] => some [a * 256 + b, c * 256 + d]
  | _ => none

def piece? (text : List Char) : Option Nat :=
  if text.isEmpty ∨ 4 < text.length then none else numberIn? 16 text

/-- Pieces between colons. The last two may be written as octets where `octetsAllowed` says so. -/
def pieces? (octetsAllowed : Bool) : List (List Char) → Option (List Nat)
  | [] => some []
  | [last] =>
    if octetsAllowed ∧ last.contains '.' then octetPieces? last else (piece? last).map ([·])
  | part :: next :: parts => do
    let piece ← piece? part
    let pieces ← pieces? octetsAllowed (next :: parts)
    return piece :: pieces

/-- Cuts a text at the first pair of colons. -/
def cutAtColons : List Char → Option (List Char × List Char)
  | ':' :: ':' :: rest => some ([], rest)
  | char :: rest => (cutAtColons rest).map fun (before, after) => (char :: before, after)
  | [] => none

def sidePieces? (octetsAllowed : Bool) (text : List Char) : Option (List Nat) :=
  if text.isEmpty then some [] else pieces? octetsAllowed (text.splitOn ':')

/-- The eight pieces of an address. A pair of colons stands for one zero piece or more. -/
def eightPieces? (text : List Char) : Option (List Nat) :=
  match cutAtColons text with
  | none => (pieces? true (text.splitOn ':')).filter (·.length = 8)
  | some (before, after) => do
    let front ← sidePieces? false before
    let back ← sidePieces? true after
    if front.length + back.length ≤ 7 then
      some (front ++ List.replicate (8 - front.length - back.length) 0 ++ back)
    else none

def leadingZeros (pieces : List Nat) : Nat := (pieces.takeWhile (· = 0)).length

/-- Where the longest run of zero pieces begins, and its length. Of two, the first counts. -/
def longestZeros : Nat → List Nat → Nat × Nat
  | _, [] => (0, 0)
  | index, piece :: pieces =>
    let run := leadingZeros (piece :: pieces)
    let later := longestZeros (index + 1) pieces
    if later.2 ≤ run then (index, run) else later

def writePieces (pieces : List Nat) : List Char :=
  List.intercalate [':'] (pieces.map (Nat.toDigits 16))

/-- The normal form of eight pieces: the longest run of zeros is left out, if it has two or more. -/
def writeEightPieces (pieces : List Nat) : List Char :=
  let (start, run) := longestZeros 0 pieces
  if run < 2 then writePieces pieces
  else writePieces (pieces.take start) ++ [':', ':'] ++ writePieces (pieces.drop (start + run))

end SessionBoard.Url
