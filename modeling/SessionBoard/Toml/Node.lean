namespace SessionBoard.Toml

/-- How a table came to be. A header names it, or that of a table inside it, after which its own may still
follow; dotted keys name it; or it is written in braces, and nothing is added to it later. A table is defined
once, and each way of definition closes it to others. -/
inductive Origin
  | header
  | implied
  | dotted
  | braces
  deriving DecidableEq, Repr

/-- A value or a table. Booleans, numbers and moments are checked and not kept, and the tables of one repeated
header stand together. -/
inductive Node
  | text (value : String)
  | plain
  | array (items : List Node)
  | table (origin : Origin) (members : List (String × Node))
  | tables (items : List (List (String × Node)))
  deriving Repr, Inhabited

abbrev Members := List (String × Node)

namespace Members

/-- Puts a node in the place of the one with the same name. -/
def replace (members : Members) (name : String) (node : Node) : Members :=
  members.map fun member => if member.1 = name then (name, node) else member

def erase (members : Members) (name : String) : Members :=
  members.filter fun member => member.1 ≠ name

/-- Applies a change to the last of some tables. -/
def onLast (change : Members → Option Members) : List Members → Option (List Members)
  | [] => none
  | [last] => (change last).map ([·])
  | first :: next :: rest => (onLast change (next :: rest)).map (first :: ·)

/-- Adds a value under a dotted key, in a table that `dotted` says was itself named by a dotted key.
A key adds only to tables that its like has named, and never to a name that is taken. -/
def insertBelow (dotted : Bool) (members : Members) :
    List String → String → Node → Option Members
  | [], name, value =>
    if dotted ∧ (members.lookup name).isNone then some (members ++ [(name, value)]) else none
  | step :: steps, name, value =>
    match members.lookup step with
    | none => do
      let inner ← insertBelow true [] steps name value
      return members ++ [(step, .table .dotted inner)]
    | some (.table .dotted inner) => do
      let inner ← insertBelow true inner steps name value
      return members.replace step (.table .dotted inner)
    | some (.table .implied inner) => do
      let inner ← insertBelow false inner steps name value
      return members.replace step (.table .implied inner)
    | some (.tables items) => do
      let items ← onLast (fun inner => insertBelow false inner steps name value) items
      return members.replace step (.tables items)
    | some _ => none

/-- A key and its value as they stand in the document, the key by the parts before its last and its last. -/
structure Entry where
  steps : List String
  name : String
  value : Node
  deriving Repr

def insert (members : Members) (entry : Entry) : Option Members :=
  match entry.steps with
  | [] =>
    if (members.lookup entry.name).isNone then some (members ++ [(entry.name, entry.value)])
    else none
  | step :: steps => insertBelow false members (step :: steps) entry.name entry.value

def insertAll (members : Members) (entries : List Entry) : Option Members :=
  entries.foldlM insert members

/-- Follows the names before the last one of a header and changes the table there. A table that is
not there yet is implied. -/
def under (members : Members) (change : Members → Option Members) : List String → Option Members
  | [] => change members
  | step :: steps =>
    match members.lookup step with
    | none => do
      let inner ← under [] change steps
      return members ++ [(step, .table .implied inner)]
    | some (.table .braces _) => none
    | some (.table origin inner) => do
      let inner ← under inner change steps
      return members.replace step (.table origin inner)
    | some (.tables items) => do
      let items ← onLast (fun inner => under inner change steps) items
      return members.replace step (.tables items)
    | some _ => none

/-- Defines the table of a header. It goes behind the tables defined before. -/
def define (name : String) (entries : List Entry) (members : Members) : Option Members := do
  let inner ← match members.lookup name with
    | none => some []
    | some (.table .implied inner) => some inner
    | some _ => none
  let inner ← insertAll inner entries
  return members.erase name ++ [(name, .table .header inner)]

def append (name : String) (entries : List Entry) (members : Members) : Option Members := do
  let inner ← insertAll [] entries
  match members.lookup name with
  | none => return members ++ [(name, .tables [inner])]
  | some (.tables items) => return members.replace name (.tables (items ++ [inner]))
  | some _ => none

end Members

/-- A header with the lines below it. Its name is given by the parts before its last and its last, and it is
repeated where it is written in double brackets. -/
structure Section where
  steps : List String
  name : String
  repeated : Bool
  entries : List Members.Entry
  deriving Repr

/-- The lines of a document: those before the first header, then its sections. -/
structure Outline where
  entries : List Members.Entry
  sections : List Section
  deriving Repr

def Members.addSection (members : Members) (part : Section) : Option Members :=
  members.under
    (if part.repeated then Members.append part.name part.entries
      else Members.define part.name part.entries)
    part.steps

/-- The tree of a document, unless it defines something twice. -/
def Outline.build (outline : Outline) : Option Members := do
  let members ← Members.insertAll [] outline.entries
  outline.sections.foldlM Members.addSection members

end SessionBoard.Toml
