import SessionBoard.Json.Number

namespace SessionBoard.Json

/-- How closely a value is looked at that is passed over. One that somebody will look at is checked in full:
strings have to be text, numbers doubles, and nesting is limited. Of one that nobody wants only the form counts.
-/
inductive Care
  | strict
  | lenient
  deriving DecidableEq, Repr

/-- How deep arrays and objects may nest where the depth is limited. -/
def maxDepth : Nat := 128

/-- Whether another array or object may be opened when `depth` levels are left. -/
def Care.opens : Care → Nat → Bool
  | .strict, depth => 1 < depth
  | .lenient, _ => true

def Care.string : Care → Octets → Except Fault Octets
  | .strict, octets => (stringAfterQuote octets).map (·.2)
  | .lenient, octets => skipString octets

def Care.number : Care → Bool → Octets → Except Fault Octets
  | .strict, negative, octets => (readNumber negative octets).map (·.2)
  | .lenient, _, octets => skipNumber octets

def colon (octets : Octets) : Except Fault Octets :=
  match skipBlank octets with
  | [] => .error .unfinished
  | octet :: rest => if octet = 0x3a then .ok rest else .error .malformed

/-- What stands before the next item of an array or object. -/
inductive Turn
  | close (rest : Octets)
  | item (rest : Octets)

/-- Looks for the closing octet, or for a comma unless this is the first item. -/
def turn (closing : UInt8) (first : Bool) (octets : Octets) : Except Fault Turn :=
  match skipBlank octets with
  | [] => .error .unfinished
  | octet :: rest =>
    if octet = closing then .ok (.close rest)
    else if first then .ok (.item (octet :: rest))
    else if octet = 0x2c then .ok (.item rest)
    else .error .malformed

mutual

/-- Passes over one value, blanks before it included. -/
def skipValue (care : Care) : (fuel depth : Nat) → Octets → Except Fault Octets
  | 0, _, _ => .error .malformed
  | fuel + 1, depth, octets =>
    match skipBlank octets with
    | [] => .error .unfinished
    | octet :: rest =>
      match Char.ofUInt8 octet with
      | 'n' => word ['u', 'l', 'l'] rest
      | 't' => word ['r', 'u', 'e'] rest
      | 'f' => word ['a', 'l', 's', 'e'] rest
      | '"' => care.string rest
      | '-' => care.number true rest
      | '[' => if care.opens depth then skipItems care fuel (depth - 1) true rest
          else .error .malformed
      | '{' => if care.opens depth then skipMembers care fuel (depth - 1) true rest
          else .error .malformed
      | _ => if isDigit octet then care.number false (octet :: rest) else .error .malformed

def skipItems (care : Care) : (fuel depth : Nat) → Bool → Octets → Except Fault Octets
  | 0, _, _, _ => .error .malformed
  | fuel + 1, depth, first, octets => do
    match ← turn 0x5d first octets with
    | .close rest => return rest
    | .item rest =>
      let rest ← skipValue care fuel depth rest
      skipItems care fuel depth false rest

def skipMembers (care : Care) : (fuel depth : Nat) → Bool → Octets → Except Fault Octets
  | 0, _, _, _ => .error .malformed
  | fuel + 1, depth, first, octets => do
    match ← turn 0x7d first octets with
    | .close rest => return rest
    | .item rest =>
      match skipBlank rest with
      | [] => throw .unfinished
      | octet :: rest =>
        if octet ≠ 0x22 then throw .malformed
        let rest ← care.string rest
        let rest ← colon rest
        let rest ← skipValue care fuel depth rest
        skipMembers care fuel depth false rest

end

/-- Fuel for any value: every level and every item takes an octet or ends the reading. -/
def enough (octets : Octets) : Nat := 2 * octets.length + 2

def skipUnused (octets : Octets) : Except Fault Octets :=
  skipValue .lenient (enough octets) 0 octets

/-- Passes over a value that is looked at, with `depth` levels of nesting left. -/
def skipChecked (depth : Nat) (octets : Octets) : Except Fault Octets :=
  skipValue .strict (enough octets) depth octets

end SessionBoard.Json
