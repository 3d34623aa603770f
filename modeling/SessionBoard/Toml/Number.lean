import SessionBoard.Toml.Text

namespace SessionBoard.Toml

/-- Digits with single underscores between them, which are left out. -/
def takeDigits (isDigit : Char → Bool) (text : List Char) : Option (List Char × List Char) :=
  let inside := fun char => isDigit char || char == '_'
  let run := text.takeWhile inside
  let groups := run.splitOn '_'
  if groups.any List.isEmpty then none else some (groups.flatten, text.dropWhile inside)

/-- An optional sign. Says whether it is a minus. -/
def takeSign : List Char → Bool × List Char
  | '+' :: rest => (false, rest)
  | '-' :: rest => (true, rest)
  | text => (false, text)

def takeNatural : Reader (List Char)
  | '0' :: rest => some (['0'], rest)
  | text => takeDigits Char.isDigit text

def digitsValue (base : Nat) (digits : List Char) : Nat :=
  digits.foldl (fun value digit => value * base + (hexValue? digit).getD 0) 0

/-- An integer in another base after its mark. -/
def takeBased (base : Nat) (isDigit : Char → Bool) (text : List Char) : Option (List Char) := do
  let (digits, rest) ← takeDigits isDigit text
  if digitsValue base digits < 0x8000000000000000 then some rest else none

def takeInteger : List Char → Option (List Char)
  | '0' :: 'x' :: rest => takeBased 16 (fun char => (hexValue? char).isSome) rest
  | '0' :: 'o' :: rest => takeBased 8 (fun char => '0' ≤ char && char ≤ '7') rest
  | '0' :: 'b' :: rest => takeBased 2 (fun char => char == '0' || char == '1') rest
  | text => do
    let (negative, text) := takeSign text
    let (digits, rest) ← takeNatural text
    let limit := if negative then 0x8000000000000000 else 0x7fffffffffffffff
    if digitsValue 10 digits ≤ limit then some rest else none

/-- The least integer that rounds to no finite double. -/
def doubleLimit : Nat := Nat.pow 2 1024 - Nat.pow 2 970

/-- Whether `digits` times ten to the power is finite as a double. Powers far from the limit are
decided by the number of digits. -/
def isFinite (digits : List Char) (power : Int) : Bool :=
  let digits := digits.dropWhile (· = '0')
  let magnitude : Int := digits.length + power
  digits.isEmpty || magnitude ≤ 308 ||
    (magnitude ≤ 309 &&
      digitsValue 10 digits * Nat.pow 10 power.toNat < doubleLimit * Nat.pow 10 (-power).toNat)

def takeExponent (text : List Char) : Option (Int × List Char) := do
  let (negative, text) := takeSign text
  let (digits, rest) ← takeDigits Char.isDigit text
  let value : Int := digitsValue 10 digits
  return (if negative then -value else value, rest)

def takeExponentOrNone : Reader Int
  | 'e' :: rest => takeExponent rest
  | 'E' :: rest => takeExponent rest
  | text => some (0, text)

/-- A number with a point or an exponent. Only a negative one may be too large for a double. -/
def takeFloat (text : List Char) : Option (List Char) := do
  let (negative, text) := takeSign text
  match text with
  | 'i' :: 'n' :: 'f' :: rest => some rest
  | 'n' :: 'a' :: 'n' :: rest => some rest
  | _ =>
    let (whole, rest) ← takeNatural text
    let (fraction, power, rest) ← match rest with
      | '.' :: rest => do
        let (fraction, rest) ← takeDigits Char.isDigit rest
        let (power, rest) ← takeExponentOrNone rest
        pure (fraction, power, rest)
      | 'e' :: _ | 'E' :: _ => do
        let (power, rest) ← takeExponentOrNone rest
        pure ([], power, rest)
      | _ => none
    if negative ∨ isFinite (whole ++ fraction) (power - fraction.length) then some rest else none

def takeFixed (count : Nat) (text : List Char) : Option (Nat × List Char) :=
  let digits := text.take count
  if digits.length = count ∧ digits.all Char.isDigit then
    some (digitsValue 10 digits, text.drop count)
  else none

def takeBounded (low high : Nat) (text : List Char) : Option (Nat × List Char) := do
  let (value, rest) ← takeFixed 2 text
  if low ≤ value ∧ value ≤ high then some (value, rest) else none

def takeMark (mark : Char) : List Char → Option (List Char)
  | char :: rest => if char = mark then some rest else none
  | [] => none

def daysIn (year month : Nat) : Nat :=
  if month = 2 then
    if year % 4 = 0 ∧ (year % 100 ≠ 0 ∨ year % 400 = 0) then 29 else 28
  else if month = 4 ∨ month = 6 ∨ month = 9 ∨ month = 11 then 30
  else 31

def takeDate (text : List Char) : Option (List Char) := do
  let (year, text) ← takeFixed 4 text
  let text ← takeMark '-' text
  let (month, text) ← takeBounded 1 12 text
  let text ← takeMark '-' text
  let (_, rest) ← takeBounded 1 (daysIn year month) text
  return rest

/-- A time of day. A minute may have a leap second. -/
def takeTime (text : List Char) : Option (List Char) := do
  let (_, text) ← takeBounded 0 23 text
  let text ← takeMark ':' text
  let (_, text) ← takeBounded 0 59 text
  let text ← takeMark ':' text
  let (_, text) ← takeBounded 0 60 text
  match text with
  | '.' :: rest =>
    if (rest.takeWhile Char.isDigit).isEmpty then some text else some (rest.dropWhile Char.isDigit)
  | _ => some text

def takeOffset : List Char → Option (List Char)
  | 'Z' :: rest => some rest
  | 'z' :: rest => some rest
  | char :: rest =>
    if char = '+' ∨ char = '-' then do
      let (_, text) ← takeBounded 0 23 rest
      let text ← takeMark ':' text
      let (_, rest) ← takeBounded 0 59 text
      return rest
    else none
  | [] => none

def takeMoment (text : List Char) : Option (List Char) :=
  match takeDate text with
  | none => takeTime text
  | some rest =>
    match rest with
    | char :: time =>
      if char = 'T' ∨ char = 't' ∨ char = ' ' then
        match takeTime time with
        | some rest => some ((takeOffset rest).getD rest)
        | none => some (char :: time)
      else some (char :: time)
    | [] => some []

def takeNumber (text : List Char) : Option (List Char) :=
  takeMoment text <|> takeFloat text <|> takeInteger text

end SessionBoard.Toml
