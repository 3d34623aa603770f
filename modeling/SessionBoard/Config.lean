import SessionBoard.Files.Walk
import SessionBoard.Store.State
import SessionBoard.Text.Utf8
import SessionBoard.Toml.Document

namespace SessionBoard

/-- The settings, with the values that hold where a file does not name them. -/
structure Config where
  server : String := "http://127.0.0.1:8080/"
  onFetchError : FailurePolicy := .clear
  /-- The log level where neither the environment nor the command line names one. -/
  logLevel : Option String := none
  deriving DecidableEq, Repr, Inhabited

inductive ConfigError
  | unreadable (path : Path)
  | unparsable (path : Path)
  | alreadyExists (path : Path)
  | noFolder (folder : Path)
  | unwritable (path : Path)
  | unmovable (source target : Path)
  deriving DecidableEq, Repr

def ConfigError.message : ConfigError → String
  | .unreadable path => "Failed to read config from " ++ path.text
  | .unparsable path => "Failed to parse config from " ++ path.text
  | .alreadyExists path => "Config file already exists at " ++ path.text
  | .noFolder folder => "Failed to create directory " ++ folder.text
  | .unwritable path => "Failed to write config to " ++ path.text
  | .unmovable source target => "Failed to rename " ++ source.text ++ " to " ++ target.text

/-- The two variables of the environment that say where the settings are: the folder of the settings itself, and
the home of the user. -/
structure HomeVariables where
  own : Option String
  user : Option String
  deriving DecidableEq, Repr

namespace HomeVariables

def folder (home : HomeVariables) : Path :=
  match home.own, home.user with
  | some folder, _ => .ofText folder
  | none, some home => ((Path.ofText home).join (.ofText ".config")).join (.ofText "neckview")
  | none, none => .ofText ".neckview"

def configFile (home : HomeVariables) : Path := home.folder.join (.ofText "config.toml")

def logsFolder (home : HomeVariables) : Path := home.folder.join (.ofText "logs")

end HomeVariables

def FailurePolicy.ofLabel? (label : String) : Option FailurePolicy :=
  [FailurePolicy.clear, .keep].find? (·.label = label)

/-- A policy is named by a text, or by the first name in a table that has nothing below it. A table
in braces has that name alone. -/
def FailurePolicy.ofNode? : Toml.Node → Option FailurePolicy
  | .text label => ofLabel? label
  | .table origin ((label, inner) :: more) =>
    if origin = .braces ∧ !more.isEmpty then none
    else match inner with
      | .array [] => ofLabel? label
      | .table _ [] => ofLabel? label
      | _ => none
  | _ => none

def Toml.Node.text? : Toml.Node → Option String
  | .text value => some value
  | _ => none

/-- A setting that keeps its value if the document does not name it. -/
def setting {α : Type} (members : Toml.Members) (name : String) (fallback : α)
    (read : Toml.Node → Option α) : Option α :=
  match members.lookup name with
  | none => some fallback
  | some node => read node

namespace Config

def ofMembers? (members : Toml.Members) : Option Config := do
  let server ← setting members "server" ({} : Config).server Toml.Node.text?
  let onFetchError ← setting members "on_fetch_error" ({} : Config).onFetchError FailurePolicy.ofNode?
  let logLevel ← setting members "log_level" none fun node => node.text?.map some
  return { server, onFetchError, logLevel }

def parse? (text : List Char) : Option Config := Toml.read text >>= ofMembers?

def syncOptions (config : Config) : SyncOptions := { onFetchError := config.onFetchError }

/-- Reads the settings at a path. Without a file all settings have their first values. -/
def load (tree : FileTree) (path : Path) : Except ConfigError Config :=
  match tree.find? path with
  | none => .ok {}
  | some (.folder _) => .error (.unreadable path)
  | some (.file octets) =>
    match Text.Utf8.decode? octets with
    | none => .error (.unreadable path)
    | some text => (parse? text).elim (.error (.unparsable path)) .ok

/-- The first settings, with a word on each. -/
def template : String :=
  "# neckview configuration
#
# Values here are overridden by command-line flags and environment variables
# (--server / NECKVIEW_SERVER, NECKVIEW_LOG).

# Base URL of the neck server. Endpoint paths are resolved relative to it.
server = \"http://127.0.0.1:8080/\"

# What to show when a session fetch fails:
#   \"clear\" - empty the table until the next successful fetch
#   \"keep\"  - keep showing the last good list
on_fetch_error = \"clear\"

# Log level when NECKVIEW_LOG is unset and no -v flag is given.
# log_level = \"warn\"
"

/-- The file that the settings are written to before they take their place. -/
def draft (path : Path) : Path := path.withExtension "toml.tmp"

/-- Makes a file of first settings where nothing is yet. The file is written beside its place and
then moved there. Gives the tree that is left, also after a failure. -/
def create (tree : FileTree) (path : Path) : FileTree × Except ConfigError Unit :=
  if (tree.find? path).isSome then (tree, .error (.alreadyExists path))
  else
    match tree.makeFoldersTo path.parent with
    | (tree, false) => (tree, .error (.noFolder path.parent))
    | (tree, true) =>
      match tree.writeTo? (draft path) (Text.Utf8.encode template.toList) with
      | none => (tree, .error (.unwritable (draft path)))
      | some tree =>
        match tree.rename? (draft path) path with
        | none => (tree, .error (.unmovable (draft path) path))
        | some tree => (tree, .ok ())

end Config

end SessionBoard
