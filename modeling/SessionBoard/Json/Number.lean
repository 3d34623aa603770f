import SessionBoard.Json.Scan

namespace SessionBoard.Json

/-- An integer of 64 bits, signed or unsigned, is kept; any other number is only known to be real, once it is
sure that a double can hold it. -/
inductive Number
  | integer (value : Int)
  | real
  deriving DecidableEq, Repr

def maxUnsigned : Nat := 0xffffffffffffffff

/-- The largest exponent read digit by digit. -/
def maxExponent : Nat := 0x7fffffff

/-- The leading digits that fit an unsigned integer, and the power of ten that scales them. -/
structure Scaled where
  digits : Nat
  power : Int
  deriving DecidableEq, Repr

/-- Takes integer digits. From the first digit that does not fit on, digits only scale. -/
def Scaled.ofInteger (digits : List UInt8) : Scaled :=
  digits.foldl (fun scaled digit =>
    let next := scaled.digits * 10 + digitValue digit
    if scaled.power = 0 ∧ next ≤ maxUnsigned then { scaled with digits := next }
    else { scaled with power := scaled.power + 1 }) ⟨0, 0⟩

/-- Takes digits after the point, up to the first one that does not fit. -/
def Scaled.withFraction (scaled : Scaled) : List UInt8 → Scaled
  | [] => scaled
  | digit :: rest =>
    let next := scaled.digits * 10 + digitValue digit
    if next ≤ maxUnsigned then
      Scaled.withFraction { digits := next, power := scaled.power - 1 } rest
    else scaled

/-- `n` rounded to 53 significant bits, a tie to the even neighbour. -/
def roundToDouble (n : Nat) : Nat :=
  let excess := n.log2 + 1 - 53
  let unit := Nat.pow 2 excess
  let low := n % unit
  let down := n / unit
  let up := if 2 * low > unit ∨ (2 * low = unit ∧ down % 2 = 1) then 1 else 0
  (down + up) * unit

/-- Whether the product of the two rounded factors is finite as a double. -/
def Scaled.isFinite (scaled : Scaled) : Bool :=
  scaled.power < 0 || scaled.digits = 0 ||
    (scaled.power ≤ 308 &&
      roundToDouble scaled.digits * roundToDouble (Nat.pow 10 scaled.power.toNat)
        < Nat.pow 2 1024 - Nat.pow 2 970)

def realOf (scaled : Scaled) (rest : Octets) : Except Fault (Number × Octets) :=
  if scaled.isFinite then .ok (.real, rest) else .error .malformed

def readExponent (scaled : Scaled) (octets : Octets) : Except Fault (Number × Octets) :=
  let (negative, octets) :=
    match octets with
    | octet :: rest =>
      if octet = 0x2b then (false, rest) else if octet = 0x2d then (true, rest) else (false, octets)
    | [] => (false, octets)
  let digits := octets.takeWhile isDigit
  let rest := octets.dropWhile isDigit
  match digits with
  | [] => if octets.isEmpty then .error .unfinished else .error .malformed
  | _ :: _ =>
    let exponent := digits.foldl (fun n digit => n * 10 + digitValue digit) 0
    if maxExponent < exponent then
      if scaled.digits ≠ 0 ∧ !negative then .error .malformed else .ok (.real, rest)
    else
      let power := if negative then scaled.power - exponent else scaled.power + exponent
      realOf { scaled with power := power } rest

def isExponentMark (octet : UInt8) : Bool := octet == 0x65 || octet == 0x45

def readFraction (scaled : Scaled) (octets : Octets) : Except Fault (Number × Octets) :=
  let digits := octets.takeWhile isDigit
  match digits, octets.dropWhile isDigit with
  | [], [] => .error .unfinished
  | [], _ :: _ => .error .malformed
  | _ :: _, [] => realOf (scaled.withFraction digits) []
  | _ :: _, octet :: rest =>
    if isExponentMark octet then readExponent (scaled.withFraction digits) rest
    else realOf (scaled.withFraction digits) (octet :: rest)

/-- The integer of these digits, unless it needs more than 64 bits or is a negative zero. -/
def integerOf (negative : Bool) (scaled : Scaled) (rest : Octets) :
    Except Fault (Number × Octets) :=
  if scaled.power ≠ 0 then realOf scaled rest
  else if negative then
    if scaled.digits = 0 ∨ 0x8000000000000000 < scaled.digits then .ok (.real, rest)
    else .ok (.integer (-scaled.digits), rest)
  else .ok (.integer scaled.digits, rest)

def readNumber (negative : Bool) (octets : Octets) : Except Fault (Number × Octets) :=
  let digits := octets.takeWhile isDigit
  let scaled := Scaled.ofInteger digits
  match digits, octets.dropWhile isDigit with
  | [], [] => .error .unfinished
  | [], _ :: _ => .error .malformed
  | first :: more, rest =>
    if first = 0x30 ∧ !more.isEmpty then .error .malformed
    else match rest with
      | [] => integerOf negative scaled []
      | octet :: after =>
        if octet = 0x2e then readFraction scaled after
        else if isExponentMark octet then readExponent scaled after
        else integerOf negative scaled (octet :: after)

/-- Passes over a number after its sign, whatever its size. -/
def skipNumber (octets : Octets) : Except Fault Octets :=
  match octets.takeWhile isDigit with
  | [] => .error .malformed
  | first :: more =>
    if first = 0x30 ∧ !more.isEmpty then .error .malformed
    else match octets.dropWhile isDigit with
      | [] => .ok []
      | octet :: after =>
        if octet = 0x2e then
          if (after.takeWhile isDigit).isEmpty then .error .malformed
          else match after.dropWhile isDigit with
            | [] => .ok []
            | octet :: rest => if isExponentMark octet then exponent rest else .ok (octet :: rest)
        else if isExponentMark octet then exponent after
        else .ok (octet :: after)
where
  exponent (octets : Octets) : Except Fault Octets :=
    let unsigned :=
      match octets with
      | octet :: rest => if octet = 0x2b ∨ octet = 0x2d then rest else octets
      | [] => octets
    if (unsigned.takeWhile isDigit).isEmpty then .error .malformed
    else .ok (unsigned.dropWhile isDigit)

end SessionBoard.Json
