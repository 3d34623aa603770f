import SessionBoard.Text.Cluster.Ranges
import SessionBoard.Text.Ranges
import SessionBoard.Url.Mapping
import SessionBoard.Url.Punycode
import SessionBoard.Text.Utf8

namespace SessionBoard.Url.Domain

open SessionBoard.Text

/-- What stands for a character beyond ASCII. -/
def mapBeyond (code : Nat) : Option (List Char) :=
  if inRanges Mapping.ignored code then some []
  else if inRanges Mapping.refused code then none
  else match Mapping.spread.lookup code with
    | some codes => some (codes.map Char.ofNat)
    | none =>
      match Mapping.shifted.find? fun (first, last, step, _) =>
          first ≤ code && code ≤ last && (code - first) % step = 0 with
      | some (first, _, _, other) => some [Char.ofNat (code - first + other)]
      | none => some [Char.ofNat code]

def mapChar (char : Char) : Option (List Char) :=
  if char.toNat < 0x80 then some [char.toLower] else mapBeyond char.toNat

def isDenied (char : Char) : Bool :=
  char.toNat ≤ 0x20 || char.toNat == 0x7f ||
    ['%', '#', '/', ':', '<', '>', '?', '@', '[', '\\', ']', '^', '|'].contains char

def isMark (char : Char) : Bool :=
  inRanges Cluster.extendRanges char.toNat || inRanges Cluster.spacingMarkRanges char.toNat

def isJoiner (char : Char) : Bool := char == '\u200c' || char == '\u200d'

/-- Joiners stand only behind marks that tie two consonants. -/
def joinersFit : List Char → Bool
  | first :: second :: rest =>
    (!isJoiner second || inRanges Cluster.conjunctLinkerRanges first.toNat) &&
      joinersFit (second :: rest)
  | _ => true

/-- Whether a label beyond ASCII is in its one form and starts with no mark. -/
def isLabel (label : List Char) : Bool :=
  label.all (fun char => mapChar char = some [char]) && joinersFit label &&
    !(label.head?.any fun char => isMark char || isJoiner char)

def isAscii (text : List Char) : Bool := text.all (·.toNat < 0x80)

def spelledMark : List Char := ['x', 'n', '-', '-']

def labelToAscii (label : List Char) : Option (List Char) :=
  if label.take 4 = spelledMark then do
    let spelled ← Punycode.decode? (label.drop 4)
    if isAscii label ∧ ¬ isAscii spelled ∧ isLabel spelled then some label else none
  else if isAscii label then some label
  else if isLabel label then some (spelledMark ++ Punycode.encode label)
  else none

/-- The one ASCII form by which the host name that these octets spell is looked up. -/
def toAscii (octets : List UInt8) : Option (List Char) := do
  let text ← Utf8.decode? octets
  let mapped := (← text.mapM mapChar).flatten
  if mapped.any isDenied then none
  else do
    let labels ← (mapped.splitOn '.').mapM labelToAscii
    return List.intercalate ['.'] labels

end SessionBoard.Url.Domain
