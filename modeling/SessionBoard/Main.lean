import SessionBoard.Cli.Run
import Std.Time.DateTime.Timestamp

namespace SessionBoard.Disk

/-- The names that lead to the folders a path passes and to its end. -/
def ways (path : Path) : List (List String) :=
  (List.range path.names.length).map fun last => path.names.take (last + 1)

def text (absolute : Bool) (way : List String) : String :=
  (if absolute then "/" else "./") ++ "/".intercalate way

def place (way : List String) : List String := way.foldl Path.onward []

/-- What is at the end of a way. A folder comes without its entries, and whatever cannot be read counts
as one. -/
def read (absolute : Bool) (way : List String) : IO (Option FileTree) := do
  let found ← try some <$> IO.FS.realPath (text absolute way) catch _ => pure none
  match found with
  | none => return none
  | some found =>
    try return some (.file (← IO.FS.readBinFile found).toList)
    catch _ => return some (.folder [])

/-- Adds to a tree what is at the end of a way. -/
def scan (absolute : Bool) (tree : FileTree) (way : List String) : IO FileTree := do
  match ← read absolute way with
  | some (.folder _) => return (tree.makeFolders (place way)).1
  | some (.file octets) => return (tree.write? (place way) octets).getD tree
  | none => return tree

/-- Brings what is at the end of a way on this machine from one tree to another. -/
def update (absolute : Bool) (before after : FileTree) (way : List String) : IO Unit :=
  match after.at? (place way) with
  | some (.folder _) =>
    if before.exists? (place way) then pure () else IO.FS.createDirAll (text absolute way)
  | some (.file octets) =>
    if before.file? (place way) = some octets then pure ()
    else IO.FS.writeBinFile (text absolute way) octets.toByteArray
  | none => if before.exists? (place way) then IO.FS.removeFile (text absolute way) else pure ()

end SessionBoard.Disk

open SessionBoard in
/-- Runs the command of a command line over the files and clocks of this machine, and does to the machine what
it does to the tree. No network is reached from here: a server counts as one where nobody listens. -/
def main (words : List String) : IO UInt32 := do
  let home : HomeVariables := ⟨← IO.getEnv "NECKVIEW_HOME", ← IO.getEnv "HOME"⟩
  let absolute := home.folder.isAbsolute
  let paths := [home.folder, home.configFile, Config.draft home.configFile, home.logsFolder]
  let ways := paths.flatMap Disk.ways
  let tree ← ways.foldlM (Disk.scan absolute) (.folder [])
  let instant ← IO.monoMsNow
  let wall := (← Std.Time.Timestamp.now).toMillisecondsSinceUnixEpoch.val
  let outcome := Cli.run {
    home := home
    server := ← IO.getEnv "NECKVIEW_SERVER"
    tree := tree
    now := ⟨instant, wall⟩
    reply := fun _ => .refused } words
  for way in ways do
    Disk.update absolute tree outcome.tree way
  (← IO.getStdout).putStr (String.ofList outcome.output)
  (← IO.getStderr).putStr (String.ofList outcome.errors)
  return outcome.exit.toUInt32
