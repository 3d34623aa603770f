namespace SessionBoard.Toml

/-- A reader takes what it knows from the start of a text and leaves the rest. -/
abbrev Reader (α : Type) := List Char → Option (α × List Char)

def isBlank (char : Char) : Bool := char == ' ' || char == '\t'

/-- Control characters other than the tab stand nowhere inside a line. -/
def isShown (char : Char) : Bool :=
  char == '\t' || (0x20 ≤ char.toNat && char.toNat != 0x7f)

def skipBlanks (text : List Char) : List Char := text.dropWhile isBlank

def lineEnd? : List Char → Option (List Char)
  | '\n' :: rest => some rest
  | '\r' :: '\n' :: rest => some rest
  | _ => none

def restOfLine? (text : List Char) : Option (List Char) :=
  let text := skipBlanks text
  let text := if text.head? = some '#' then text.dropWhile isShown else text
  if text.isEmpty then some [] else lineEnd? text

/-- Passes over blanks, line ends and comments, as they may stand between the items of an array. -/
def skipLines : (fuel : Nat) → List Char → List Char
  | 0, text => text
  | fuel + 1, text =>
    let text := skipBlanks text
    if text.head? = some '#' then skipLines fuel (text.dropWhile isShown)
    else match lineEnd? text with
      | some rest => skipLines fuel rest
      | none => text

def skipSpace (text : List Char) : List Char := skipLines (text.length + 1) text

def hexValue? (char : Char) : Option Nat :=
  if char.isDigit then some (char.toNat - '0'.toNat)
  else if 'a' ≤ char ∧ char ≤ 'f' then some (char.toNat - 'a'.toNat + 10)
  else if 'A' ≤ char ∧ char ≤ 'F' then some (char.toNat - 'A'.toNat + 10)
  else none

/-- The character whose number these digits spell. -/
def numbered? (digits : List Char) : Option Char := do
  let values ← digits.mapM hexValue?
  let number := values.foldl (fun number value => number * 16 + value) 0
  if number.isValidChar then some (Char.ofNat number) else none

/-- The character that a single letter after a backslash stands for. -/
def escaped? (letter : Char) : Option Char :=
  match letter with
  | '"' => some '"'
  | '\\' => some '\\'
  | 'b' => some '\x08'
  | 'f' => some '\x0c'
  | 'n' => some '\n'
  | 'r' => some '\r'
  | 't' => some '\t'
  | _ => none

def takeEscape : Reader Char
  | 'u' :: a :: b :: c :: d :: rest => (numbered? [a, b, c, d]).map (·, rest)
  | 'U' :: a :: b :: c :: d :: e :: f :: g :: h :: rest =>
    (numbered? [a, b, c, d, e, f, g, h]).map (·, rest)
  | letter :: rest => (escaped? letter).map (·, rest)
  | [] => none

def basicText : (fuel : Nat) → Reader (List Char)
  | 0, _ => none
  | _, [] => none
  | fuel + 1, char :: rest =>
    if char = '"' then some ([], rest)
    else if char = '\\' then do
      let (char, rest) ← takeEscape rest
      let (text, rest) ← basicText fuel rest
      return (char :: text, rest)
    else if isShown char then do
      let (text, rest) ← basicText fuel rest
      return (char :: text, rest)
    else none

/-- Two quotes more than the closing three belong to the text. -/
def closing (quote : Char) (rest : List Char) : List Char × List Char :=
  let extra := (rest.take 2).takeWhile (· = quote)
  (extra, rest.drop extra.length)

def endsLine (text : List Char) : Bool := (lineEnd? (skipBlanks text)).isSome

/-- Passes over blanks and line ends, as they follow a backslash at the end of a line. -/
def skipIndent : (fuel : Nat) → List Char → List Char
  | 0, text => text
  | fuel + 1, text =>
    match lineEnd? (skipBlanks text) with
    | some rest => skipIndent fuel rest
    | none => skipBlanks text

/-- A quoted string of several lines after its opening quotes. -/
def basicLines : (fuel : Nat) → Reader (List Char)
  | 0, _ => none
  | _, [] => none
  | _ + 1, '"' :: '"' :: '"' :: rest => some (closing '"' rest)
  | fuel + 1, char :: rest =>
    if char = '\\' then
      if endsLine rest then basicLines fuel (skipIndent rest.length rest)
      else do
        let (char, rest) ← takeEscape rest
        let (text, rest) ← basicLines fuel rest
        return (char :: text, rest)
    else if isShown char then do
      let (text, rest) ← basicLines fuel rest
      return (char :: text, rest)
    else do
      let rest ← lineEnd? (char :: rest)
      let (text, rest) ← basicLines fuel rest
      return ('\n' :: text, rest)

def literalText (text : List Char) : Option (List Char × List Char) :=
  let inside := fun char => char ≠ '\'' && isShown char
  match text.dropWhile inside with
  | '\'' :: rest => some (text.takeWhile inside, rest)
  | _ => none

/-- A literal string of several lines after its opening quotes. -/
def literalLines : (fuel : Nat) → Reader (List Char)
  | 0, _ => none
  | _, [] => none
  | _ + 1, '\'' :: '\'' :: '\'' :: rest => some (closing '\'' rest)
  | fuel + 1, char :: rest =>
    if isShown char then do
      let (text, rest) ← literalLines fuel rest
      return (char :: text, rest)
    else do
      let rest ← lineEnd? (char :: rest)
      let (text, rest) ← literalLines fuel rest
      return ('\n' :: text, rest)

/-- A line end right after the opening quotes does not belong to the text. -/
def afterOpening (text : List Char) : List Char := (lineEnd? text).getD text

def takeLineText : Reader (List Char)
  | '"' :: rest => basicText rest.length rest
  | '\'' :: rest => literalText rest
  | _ => none

def takeText : Reader (List Char)
  | '"' :: '"' :: '"' :: rest => basicLines rest.length (afterOpening rest)
  | '\'' :: '\'' :: '\'' :: rest => literalLines rest.length (afterOpening rest)
  | text => takeLineText text

def isKeyChar (char : Char) : Bool := char.isAlphanum || char == '_' || char == '-'

/-- One part of a key, quoted or bare. -/
def takePart (text : List Char) : Option (String × List Char) :=
  match takeLineText text with
  | some (name, rest) => some (String.ofList name, rest)
  | none =>
    match text.takeWhile isKeyChar with
    | [] => none
    | char :: chars => some (String.ofList (char :: chars), text.dropWhile isKeyChar)

/-- The most parts a key has. -/
def maxParts : Nat := 79

def takeParts : (fuel : Nat) → Reader (String × List String)
  | 0, _ => none
  | fuel + 1, text => do
    let (first, rest) ← takePart (skipBlanks text)
    match skipBlanks rest with
    | '.' :: rest =>
      let ((next, more), rest) ← takeParts fuel rest
      return ((first, next :: more), rest)
    | rest => return ((first, []), rest)

/-- A key, as the parts before its last and its last. -/
def takeKey (text : List Char) : Option ((List String × String) × List Char) := do
  let ((first, more), rest) ← takeParts maxParts text
  let parts := first :: more
  return ((parts.dropLast, parts.getLast (by simp [parts])), rest)

end SessionBoard.Toml
