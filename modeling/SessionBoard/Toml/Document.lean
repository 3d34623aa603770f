import SessionBoard.Toml.Node
import SessionBoard.Toml.Number

namespace SessionBoard.Toml

/-- The items of an array after its bracket. A comma may follow the last one. -/
def takeItems (value : Reader Node) : (fuel : Nat) → Reader (List Node)
  | 0, _ => none
  | fuel + 1, text =>
    match skipSpace text with
    | ']' :: rest => some ([], rest)
    | text => do
      let (item, rest) ← value text
      match skipSpace rest with
      | ']' :: rest => return ([item], rest)
      | ',' :: rest =>
        let (items, rest) ← takeItems value fuel rest
        return (item :: items, rest)
      | _ => none

def takeEntry (value : Reader Node) (text : List Char) : Option (Members.Entry × List Char) := do
  let ((steps, name), rest) ← takeKey text
  let rest ← takeMark '=' rest
  let (node, rest) ← value (skipBlanks rest)
  return (⟨steps, name, node⟩, rest)

/-- The members of a table in braces, one at least. No comma follows the last one. -/
def takeMembers (value : Reader Node) : (fuel : Nat) → Reader (List Members.Entry)
  | 0, _ => none
  | fuel + 1, text => do
    let (entry, rest) ← takeEntry value text
    match skipBlanks rest with
    | '}' :: rest => return ([entry], rest)
    | ',' :: rest =>
      let (entries, rest) ← takeMembers value fuel rest
      return (entry :: entries, rest)
    | _ => none

def takeBraces (value : Reader Node) (text : List Char) : Option (Node × List Char) :=
  match skipBlanks text with
  | '}' :: rest => some (.table .braces [], rest)
  | text => do
    let (entries, rest) ← takeMembers value text.length text
    let members ← Members.insertAll [] entries
    return (.table .braces members, rest)

/-- A value with at most `depth` brackets and braces open around another. -/
def takeValue : (depth : Nat) → Reader Node
  | depth, text =>
    match text with
    | [] => none
    | '[' :: rest =>
      match depth with
      | 0 => none
      | depth + 1 => do
        let (items, rest) ← takeItems (takeValue depth) rest.length rest
        return (.array items, rest)
    | '{' :: rest =>
      match depth with
      | 0 => none
      | depth + 1 => takeBraces (takeValue depth) rest
    | 't' :: 'r' :: 'u' :: 'e' :: rest => some (.plain, rest)
    | 'f' :: 'a' :: 'l' :: 's' :: 'e' :: rest => some (.plain, rest)
    | char :: _ =>
      if char = '"' ∨ char = '\'' then do
        let (value, rest) ← takeText text
        return (.text (String.ofList value), rest)
      else do
        let rest ← takeNumber text
        return (.plain, rest)

/-- The most brackets and braces open around a value. -/
def maxDepth : Nat := 79

inductive Line
  | entry (entry : Members.Entry)
  | header (steps : List String) (name : String) (repeated : Bool)
  deriving Repr

def takeHeader (text : List Char) : Option (Line × List Char) :=
  match text with
  | '[' :: rest => do
    let ((steps, name), rest) ← takeKey rest
    let rest ← takeMark ']' rest
    let rest ← takeMark ']' rest
    return (.header steps name true, rest)
  | _ => do
    let ((steps, name), rest) ← takeKey text
    let rest ← takeMark ']' rest
    return (.header steps name false, rest)

def takeLine (text : List Char) : Option (Line × List Char) :=
  match text with
  | '[' :: rest => takeHeader rest
  | _ => do
    let (entry, rest) ← takeEntry (takeValue maxDepth) text
    return (.entry entry, rest)

def takeLines : (fuel : Nat) → List Char → Option (List Line)
  | 0, _ => none
  | fuel + 1, text =>
    match skipSpace text with
    | [] => some []
    | text => do
      let (line, rest) ← takeLine text
      let rest ← restOfLine? rest
      let lines ← takeLines fuel rest
      return line :: lines

def Outline.ofLines : List Line → Outline
  | [] => ⟨[], []⟩
  | .entry entry :: lines =>
    let outline := Outline.ofLines lines
    { outline with entries := entry :: outline.entries }
  | .header steps name repeated :: lines =>
    let outline := Outline.ofLines lines
    ⟨[], ⟨steps, name, repeated, outline.entries⟩ :: outline.sections⟩

/-- The tree of a document, if the text is one: its values are read, then its lines, and each line is put below
its header. A byte order mark may stand at the start. -/
def read (text : List Char) : Option Members := do
  let text := if text.head? = some '\uFEFF' then text.drop 1 else text
  let lines ← takeLines (text.length + 1) text
  (Outline.ofLines lines).build

end SessionBoard.Toml
