namespace SessionBoard

/-- A tree of files and folders. A place in it is given by the names that lead there from its top. -/
inductive FileTree
  | file (octets : List UInt8)
  | folder (entries : List (String × FileTree))
  deriving Repr, Inhabited

namespace FileTree

abbrev Entries := List (String × FileTree)

/-- Puts a tree under a name, in the place of the one that was there. -/
def put (name : String) (tree : FileTree) : Entries → Entries
  | [] => [(name, tree)]
  | entry :: entries =>
    if entry.1 = name then (name, tree) :: entries else entry :: put name tree entries

def at? : FileTree → List String → Option FileTree
  | tree, [] => some tree
  | .file _, _ :: _ => none
  | .folder entries, name :: names => (entries.lookup name).bind (at? · names)

def file? (tree : FileTree) (place : List String) : Option (List UInt8) :=
  match tree.at? place with
  | some (.file octets) => some octets
  | _ => none

def isFolder : FileTree → Bool
  | folder _ => true
  | file _ => false

def exists? (tree : FileTree) (place : List String) : Bool := (tree.at? place).isSome

def maxName : Nat := 255

def isNameable (name : String) : Bool := name.utf8ByteSize ≤ maxName

/-- Makes the folders that lead to a place, from the top down, and says whether all are there. Those
made before one that cannot be made stay. -/
def makeFolders : FileTree → List String → FileTree × Bool
  | tree, [] => (tree, tree.isFolder)
  | .file octets, _ :: _ => (.file octets, false)
  | .folder entries, name :: names =>
    if (entries.lookup name).isSome || isNameable name then
      let (inner, done) := makeFolders ((entries.lookup name).getD (.folder [])) names
      (.folder (put name inner entries), done)
    else (.folder entries, false)

/-- Writes a file into a folder that is there. No folder is replaced. -/
def write? : FileTree → List String → List UInt8 → Option FileTree
  | .folder _, [], _ => none
  | .file _, [], octets => some (.file octets)
  | .file _, _ :: _, _ => none
  | .folder entries, name :: names, octets =>
    match entries.lookup name, names with
    | some inner, names =>
      (inner.write? names octets).map fun inner => .folder (put name inner entries)
    | none, [] =>
      if isNameable name then some (.folder (put name (.file octets) entries)) else none
    | none, _ :: _ => none

def remove : FileTree → List String → FileTree
  | tree, [] => tree
  | .file octets, _ :: _ => .file octets
  | .folder entries, [name] => .folder (entries.filter (·.1 ≠ name))
  | .folder entries, name :: next :: names =>
    match entries.lookup name with
    | some inner => .folder (put name (inner.remove (next :: names)) entries)
    | none => .folder entries

/-- Gives a file another place, where no folder is. -/
def move? (tree : FileTree) (source target : List String) : Option FileTree := do
  let octets ← tree.file? source
  let tree ← tree.write? target octets
  return tree.remove source

def listing (tree : FileTree) (place : List String) : List String :=
  match tree.at? place with
  | some (.folder entries) => (entries.map (·.1)).mergeSort (· ≤ ·)
  | _ => []

end FileTree

end SessionBoard
