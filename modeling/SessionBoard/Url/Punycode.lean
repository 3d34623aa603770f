namespace SessionBoard.Url.Punycode

def firstCode : Nat := 0x80

def digitChar (digit : Nat) : Char :=
  if digit < 26 then Char.ofNat (0x61 + digit) else Char.ofNat (0x30 + (digit - 26))

def digitOf? (char : Char) : Option Nat :=
  if 'a' ≤ char ∧ char ≤ 'z' then some (char.toNat - 0x61)
  else if 'A' ≤ char ∧ char ≤ 'Z' then some (char.toNat - 0x41)
  else if '0' ≤ char ∧ char ≤ '9' then some (char.toNat - 0x30 + 26)
  else none

/-- The digits from this one up are not the last of their number. -/
def threshold (place bias : Nat) : Nat := min 26 (max 1 (place - bias))

def damped (delta place : Nat) : Nat × Nat :=
  if delta ≤ 455 then (delta, place) else damped (delta / 35) (place + 36)
termination_by delta

/-- The bias after a number, by its size and how many characters there are now. -/
def adapt (delta count : Nat) (first : Bool) : Nat :=
  let delta := if first then delta / 700 else delta / 2
  let (delta, place) := damped (delta + delta / count) 0
  place + 36 * delta / (delta + 38)

/-- A number in digits of falling weight, the last below its threshold. -/
def writeNumber (bias place number : Nat) : List Char :=
  let limit := threshold place bias
  if number < limit then [digitChar number]
  else
    digitChar (limit + (number - limit) % (36 - limit)) ::
      writeNumber bias (place + 36) ((number - limit) / (36 - limit))
termination_by number
decreasing_by
  have positive : 1 ≤ threshold place bias := by unfold threshold; omega
  exact Nat.lt_of_le_of_lt (Nat.div_le_self _ _) (by omega)

structure Progress where
  delta : Nat := 0
  bias : Nat := 72
  written : Nat
  text : List Char := []
  deriving Repr

/-- Passes a character of the label while those with this code are written. -/
def Progress.pass (basic code : Nat) (progress : Progress) (char : Nat) : Progress :=
  if char < code then { progress with delta := progress.delta + 1 }
  else if char = code then
    { delta := 0
      bias := adapt progress.delta (progress.written + 1) (progress.written = basic)
      written := progress.written + 1
      text := progress.text ++ writeNumber progress.bias 36 progress.delta }
  else progress

def writeCodes (label : List Nat) (basic : Nat) : List Nat → Nat → Progress → List Char
  | [], _, progress => progress.text
  | code :: codes, next, progress =>
    let progress := { progress with delta := progress.delta + (code - next) * (progress.written + 1) }
    let progress := label.foldl (Progress.pass basic code) progress
    writeCodes label basic codes (code + 1) { progress with delta := progress.delta + 1 }

def encode (label : List Char) : List Char :=
  let basic := label.filter (·.toNat < firstCode)
  let codes := ((label.map Char.toNat).filter (firstCode ≤ ·)).mergeSort (· ≤ ·)
  basic ++ (if basic.isEmpty then [] else ['-']) ++
    writeCodes (label.map Char.toNat) basic.length codes.eraseDups firstCode { written := basic.length }

def readNumber (bias : Nat) : Nat → Nat → Nat → List Char → Option (Nat × List Char)
  | _, _, _, [] => none
  | place, weight, number, char :: rest =>
    match digitOf? char with
    | none => none
    | some digit =>
      let number := number + digit * weight
      let limit := threshold place bias
      if digit < limit then some (number, rest)
      else readNumber bias (place + 36) (weight * (36 - limit)) number rest

/-- Puts characters in their places until no digits are left. -/
def readCodes (basic : Nat) :
    (fuel : Nat) → Nat → Nat → Nat → List Char → List Char → Option (List Char)
  | _, _, _, _, label, [] => some label
  | 0, _, _, _, _, _ :: _ => none
  | fuel + 1, code, index, bias, label, digits => do
    let (target, rest) ← readNumber bias 36 1 index digits
    let count := label.length + 1
    let bias := adapt (target - index) count (label.length = basic)
    let code := code + target / count
    if code.isValidChar then
      readCodes basic fuel code (target % count + 1) bias
        (label.insertIdx (target % count) (Char.ofNat code)) rest
    else none

/-- The label that a text in ASCII spells: its ASCII characters come first, and then, after a hyphen, numbers
that say where the other characters go, in the order of their codes. -/
def decode? (text : List Char) : Option (List Char) :=
  let tail := (text.reverse.takeWhile (· ≠ '-')).reverse
  let basic := text.take (text.length - tail.length - 1)
  if basic.all (·.toNat < firstCode) then
    readCodes basic.length tail.length firstCode 0 72 basic tail
  else none

end SessionBoard.Url.Punycode
