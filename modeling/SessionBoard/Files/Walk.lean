import SessionBoard.Files.Path
import SessionBoard.Files.Tree

namespace SessionBoard

namespace Path

/-- The place that a name leads to from a place. Two points lead from a folder to the one that it is in, and
from the top nowhere else; so a path may pass folders that its end is not below, and they have to be there all
the same. -/
def onward (place : List String) (name : String) : List String :=
  if name = ".." then place.dropLast else place ++ [name]

def place (path : Path) : List String := path.names.foldl onward []

/-- The octets of the text of the path, and one that ends it. -/
def size (path : Path) : Nat := path.parts.foldl (fun size part => size + part.utf8ByteSize + 1) 0

def maxSize : Nat := 4096

/-- Whether a path can be followed at all. The empty path, one that is too long and one with a zero in
it lead nowhere. -/
def isPassable (path : Path) : Bool :=
  1 < path.size && path.size ≤ maxSize && path.parts.all fun part => !part.toList.contains '\x00'

end Path

namespace FileTree

def isFolderAt (tree : FileTree) (place : List String) : Bool := (tree.at? place).any isFolder

/-- Follows names from a place. No place is left that is not a folder. -/
def follow? (tree : FileTree) (place : List String) : List String → Option (List String)
  | [] => some place
  | name :: names =>
    if tree.isFolderAt place then tree.follow? (Path.onward place name) names else none

/-- The place that a path leads to. Nothing need be there yet. -/
def resolve? (tree : FileTree) (path : Path) : Option (List String) :=
  if path.isPassable then tree.follow? [] path.names else none

def find? (tree : FileTree) (path : Path) : Option FileTree :=
  ((tree.resolve? path).bind tree.at?).filter fun found => !path.asksFolder || found.isFolder

/-- Makes the folders that names lead through from a place, and says whether all are there. Those made
before one that cannot be made stay. -/
def makeWay (tree : FileTree) (place : List String) : List String → FileTree × Bool
  | [] => (tree, tree.isFolderAt place)
  | name :: names =>
    match tree.makeFolders (Path.onward place name) with
    | (tree, true) => tree.makeWay (Path.onward place name) names
    | (tree, false) => (tree, false)

def makeFoldersTo (tree : FileTree) (path : Path) : FileTree × Bool :=
  if path.names.isEmpty || path.isPassable then tree.makeWay [] path.names else (tree, false)

def writeTo? (tree : FileTree) (path : Path) (octets : List UInt8) : Option FileTree :=
  if path.asksFolder then none else (tree.resolve? path).bind (tree.write? · octets)

def rename? (tree : FileTree) (source target : Path) : Option FileTree :=
  if target.asksFolder then none
  else do
    let source ← tree.resolve? source
    let target ← tree.resolve? target
    tree.move? source target

end FileTree

end SessionBoard
