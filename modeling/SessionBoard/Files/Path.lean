namespace SessionBoard

/-- A path of a file, as text cut at its slashes. Empty parts and single points stand for nothing when the path
is followed, but they stay in its text. A path that begins with a slash has an empty first part, and the empty
path is one empty part. -/
structure Path where
  parts : List String
  deriving DecidableEq, Repr

namespace Path

def ofText (text : String) : Path :=
  ⟨(text.toList.splitOn '/').map String.ofList⟩

def text (path : Path) : String := "/".intercalate path.parts

def isName (part : String) : Bool := part != "" && part != "."

def names (path : Path) : List String := path.parts.filter isName

/-- A path that ends in a slash or a point leads to a folder only. -/
def asksFolder (path : Path) : Bool := !(path.parts.getLast?.any isName)

def isAbsolute (path : Path) : Bool := path.parts.length > 1 && path.parts.head? = some ""

/-- A path taken from a folder. An absolute path leads to the same place from everywhere. -/
def join (folder path : Path) : Path :=
  if path.isAbsolute then path
  else if folder.parts.getLast? = some "" then ⟨folder.parts.dropLast ++ path.parts⟩
  else ⟨folder.parts ++ path.parts⟩

/-- The parts up to the last name. -/
def trimmed (path : Path) : List String :=
  (path.parts.reverse.dropWhile (!isName ·)).reverse

/-- The folder that the last name of the path is in. -/
def parent (path : Path) : Path :=
  ⟨(path.trimmed.dropLast.reverse.dropWhile (!isName ·)).reverse⟩

/-- A name without its extension. A point at its start begins none. -/
def stem (name : String) : String :=
  match name.toList.reverse.dropWhile (· ≠ '.') with
  | _ :: before => if before.isEmpty then name else String.ofList before.reverse
  | [] => name

/-- The same path with another extension at its last name. Two points are no name to extend. -/
def withExtension (path : Path) (extension : String) : Path :=
  match path.trimmed.getLast? with
  | some name =>
    if name = ".." then path else ⟨path.trimmed.dropLast ++ [stem name ++ "." ++ extension]⟩
  | none => path

end Path

end SessionBoard
