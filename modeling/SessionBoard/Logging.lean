import SessionBoard.Files.Walk

namespace SessionBoard.Logging

/-- The level that counts for the log: the one that a count of verbosity flags asks for, and without a flag that
of the setting. -/
def level (verbosity : Nat) (configured : Option String) : String :=
  match verbosity with
  | 0 => configured.getD "warn"
  | 1 => "info"
  | 2 => "debug"
  | _ => "trace"

inductive SetupError
  | noFolder (folder : Path)
  /-- The process has a log already. -/
  | taken
  deriving DecidableEq, Repr

def SetupError.message : SetupError → String
  | .noFolder folder => "Failed to create log directory " ++ folder.text
  | .taken => "Failed to install log subscriber: "

/-- Makes the folder of the log. Gives the tree that is left, also after a failure. -/
def makeFolder (tree : FileTree) (folder : Path) : FileTree × Except SetupError Unit :=
  match tree.makeFoldersTo folder with
  | (tree, true) => (tree, .ok ())
  | (tree, false) => (tree, .error (.noFolder folder))

/-- Sets up a log, in a folder or without one, in a process that may have one already. -/
def setUp (tree : FileTree) (folder : Option Path) (taken : Bool) :
    FileTree × Except SetupError Unit :=
  let (tree, result) := folder.elim (tree, .ok ()) (makeFolder tree)
  match result with
  | .ok () => (tree, if taken then .error .taken else .ok ())
  | .error error => (tree, .error error)

end SessionBoard.Logging
