import SessionBoard.Session.Record

namespace SessionBoard

namespace Json

inductive Scalar
  | integer (value : Int)
  | text (value : String)
  deriving DecidableEq, Repr

/-- An object whose members have no parts, in the order of its members. -/
abbrev FlatObject := List (String × Scalar)

def hexDigit (n : Nat) : Char :=
  if n < 10 then Char.ofNat (0x30 + n) else Char.ofNat (0x61 + (n - 10))

/-- A character inside quotes. Only the quote, the backslash and controls are escaped. -/
def escape (char : Char) : List Char :=
  match char with
  | '"' => ['\\', '"']
  | '\\' => ['\\', '\\']
  | '\x08' => ['\\', 'b']
  | '\t' => ['\\', 't']
  | '\n' => ['\\', 'n']
  | '\x0c' => ['\\', 'f']
  | '\r' => ['\\', 'r']
  | char =>
    if char.toNat < 0x20 then
      ['\\', 'u', '0', '0', hexDigit (char.toNat / 16), hexDigit (char.toNat % 16)]
    else [char]

def quote (text : String) : List Char :=
  '"' :: text.toList.flatMap escape ++ ['"']

def Scalar.write : Scalar → List Char
  | .integer value => (toString value).toList
  | .text value => quote value

/-- Pieces with a separator between neighbours. -/
def joinWith (separator : List Char) : List (List Char) → List Char
  | [] => []
  | [piece] => piece
  | piece :: next :: rest => piece ++ separator ++ joinWith separator (next :: rest)

def compactObject (object : FlatObject) : List Char :=
  '{' :: joinWith [','] (object.map fun (name, value) => quote name ++ ':' :: value.write) ++ ['}']

def compactList (objects : List FlatObject) : List Char :=
  '[' :: joinWith [','] (objects.map compactObject) ++ [']']

def newline (depth : Nat) : List Char :=
  '\n' :: List.replicate (2 * depth) ' '

def prettyObject (depth : Nat) (object : FlatObject) : List Char :=
  match object with
  | [] => ['{', '}']
  | _ :: _ =>
    '{' :: newline (depth + 1)
      ++ joinWith (',' :: newline (depth + 1))
        (object.map fun (name, value) => quote name ++ ':' :: ' ' :: value.write)
      ++ newline depth ++ ['}']

def prettyList (objects : List FlatObject) : List Char :=
  match objects with
  | [] => ['[', ']']
  | _ :: _ =>
    '[' :: newline 1 ++ joinWith (',' :: newline 1) (objects.map (prettyObject 1))
      ++ newline 0 ++ [']']

end Json

open Json

/-- The number that decimal digits spell, if there are any and nothing else. -/
def natural? (text : List Char) : Option Nat :=
  if text ≠ [] ∧ text.all Char.isDigit then some (Nat.ofDigitChars 10 text 0) else none

/-- The integer of 64 bits, signed or unsigned, whose decimal form is this text. -/
def SessionId.integer? (id : SessionId) : Option Int :=
  let value? :=
    match id.text.toList with
    | '-' :: digits => (natural? digits).map fun n => -(n : Int)
    | digits => (natural? digits).map fun n => (n : Int)
  value?.filter fun value =>
    toString value = id.text ∧ -0x8000000000000000 ≤ value ∧ value ≤ 0xffffffffffffffff

/-- Only an id that reads as an integer goes out as one, so that `007` stays text. -/
def SessionId.scalar (id : SessionId) : Scalar :=
  match id.integer? with
  | some value => .integer value
  | none => .text id.text

namespace SessionRecord

def fields (record : SessionRecord) : FlatObject :=
  [("id", record.id.scalar), ("proto", .text record.protocol), ("state", .integer record.state.code),
    ("host", .text record.host), ("from", .text record.origin),
    ("timestamp", .integer record.startedAt)]

def compact (records : List SessionRecord) : List Char :=
  compactList (records.map fields)

def pretty (records : List SessionRecord) : List Char :=
  prettyList (records.map fields)

end SessionRecord

end SessionBoard
