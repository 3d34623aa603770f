import SessionBoard.Json.Skip

namespace SessionBoard.Json

/-- Why the value that starts here is not of the type asked for. A value of another type is read far enough to
tell it from broken JSON before it is refused. -/
def refusal (octets : Octets) : Fault :=
  let found {α : Type} : Except Fault α → Fault
    | .error fault => fault
    | .ok _ => .mismatched
  match octets with
  | [] => .unfinished
  | octet :: rest =>
    match Char.ofUInt8 octet with
    | 'n' => found (word ['u', 'l', 'l'] rest)
    | 't' => found (word ['r', 'u', 'e'] rest)
    | 'f' => found (word ['a', 'l', 's', 'e'] rest)
    | '"' => found (stringAfterQuote rest)
    | '-' => found (readNumber true rest)
    | '[' => .mismatched
    | '{' => .mismatched
    | _ => if isDigit octet then found (readNumber false (octet :: rest)) else .malformed

def readString : Reader String := fun octets =>
  match skipBlank octets with
  | [] => .error .unfinished
  | octet :: rest =>
    if octet = 0x22 then stringAfterQuote rest else .error (refusal (octet :: rest))

def signedOf : Number × Octets → Except Fault (Int × Octets)
  | (.integer value, rest) =>
    if value ≤ 0x7fffffffffffffff then .ok (value, rest) else .error .mismatched
  | (.real, _) => .error .mismatched

def readSigned : Reader Int := fun octets =>
  match skipBlank octets with
  | [] => .error .unfinished
  | octet :: rest =>
    if octet = 0x2d then readNumber true rest >>= signedOf
    else if isDigit octet then readNumber false (octet :: rest) >>= signedOf
    else .error (refusal (octet :: rest))

def readItems {α : Type} (item : Reader α) : (fuel : Nat) → Bool → Reader (List α)
  | 0, _, _ => .error .malformed
  | fuel + 1, first, octets => do
    match ← turn 0x5d first octets with
    | .close rest => return ([], rest)
    | .item rest =>
      let (value, rest) ← item rest
      let (values, rest) ← readItems item fuel false rest
      return (value :: values, rest)

def readArray {α : Type} (item : Reader α) : Reader (List α) := fun octets =>
  match skipBlank octets with
  | [] => .error .unfinished
  | octet :: rest =>
    if octet = 0x5b then readItems item (enough rest) true rest
    else .error (refusal (octet :: rest))

/-- The name of a member, which has to be a string. -/
def memberName : Reader String := fun octets =>
  match skipBlank octets with
  | [] => .error .unfinished
  | octet :: rest => if octet = 0x22 then stringAfterQuote rest else .error .malformed

/-- Reads octets that hold one value and nothing else but blanks. -/
def readWhole {α : Type} (value : Reader α) (octets : Octets) : Except Fault α := do
  let (value, rest) ← value octets
  if (skipBlank rest).isEmpty then return value else throw .malformed

end SessionBoard.Json
