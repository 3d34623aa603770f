import SessionBoard.Cli.Arguments
import SessionBoard.Http
import SessionBoard.Listing
import SessionBoard.Logging
import SessionBoard.Session.Writing

namespace SessionBoard.Cli

/-- What a command finds around it. -/
structure Surroundings where
  home : HomeVariables
  server : Option String
  tree : FileTree
  now : Clock
  /-- What the server at an address would reply. -/
  reply : HttpRequest → HttpReply

inductive Failure
  | load (error : ConfigError)
  | create (path : Path) (error : ConfigError)
  | server (error : ServerUrlError)
  | log (error : Logging.SetupError)
  | fetch (url : Url) (error : SourceError)
  | noTerminal
  deriving DecidableEq, Repr

/-- Errors that something outside caused. The cause would follow their message. -/
def causeMark : ConfigError → String
  | .alreadyExists _ => ""
  | _ => ":"

def Failure.message : Failure → String
  | .load error => "load config: " ++ error.message ++ causeMark error
  | .create path error => "init config at " ++ path.text ++ ": " ++ error.message ++ causeMark error
  | .server (.invalid text) => "resolve server URL: " ++ (ServerUrlError.invalid text).message ++ ":"
  | .server error => "resolve server URL: " ++ error.message
  | .log (.noFolder folder) => (Logging.SetupError.noFolder folder).message ++ ":"
  | .log error => error.message
  | .fetch url error => "fetch sessions from " ++ String.ofList url.text ++ ": " ++ error.display
  | .noTerminal =>
    "The dashboard requires a terminal.\nUse \x60neckview list\x60 for non-interactive output."

/-- Takes the blanks from the end of a text. -/
def withoutTrailing (text : List Char) : List Char :=
  (text.reverse.dropWhile (· = ' ')).reverse

structure Outcome where
  exit : Nat
  output : List Char := []
  errors : List Char := []
  tree : FileTree
  deriving Repr

namespace Outcome

def success (tree : FileTree) (output : List Char) : Outcome := { exit := 0, output, tree }

def failure (tree : FileTree) (failure : Failure) : Outcome where
  exit := 1
  errors := withoutTrailing failure.message.toList ++ ['\n']
  tree := tree

end Outcome

def unlines (lines : List (List Char)) : List Char := lines.flatMap (· ++ ['\n'])

def listText (json : Bool) (records : List SessionRecord) (now : Clock) : List Char :=
  if json then unlines [SessionRecord.pretty records]
  else if records.isEmpty then unlines ["No active sessions.".toList]
  else unlines (Listing.ofRecords records now
    ++ [(StateCounts.ofRecords records).summary.toList])

/-- The settings, and the server that they and the command line lead to. -/
def resolve (around : Surroundings) (server : Option String) : Except Failure (Config × Url) := do
  let config ← (Config.load around.tree around.home.configFile).mapError .load
  let url ← (config.serverUrl (server.or around.server)).mapError .server
  return (config, url)

def runList (around : Surroundings) (server : Option String) (json : Bool) : Outcome :=
  let records : Except Failure (List SessionRecord) := do
    let (_, url) ← resolve around server
    let reply := around.reply (Endpoints.ofBase url).sessionsRequest
    reply.sessions.mapError (.fetch url)
  match records with
  | .ok records => .success around.tree (listText json records around.now)
  | .error failure => .failure around.tree failure

/-- Sets up the dashboard up to the point where it needs a terminal, which it has not got here. -/
def runDashboard (around : Surroundings) (server : Option String) : Outcome :=
  match resolve around server with
  | .error failure => .failure around.tree failure
  | .ok _ =>
    match Logging.setUp around.tree (some around.home.logsFolder) false with
    | (tree, .error error) => .failure tree (.log error)
    | (tree, .ok ()) => .failure tree .noTerminal

def runConfigInit (around : Surroundings) : Outcome :=
  let path := around.home.configFile
  match Config.create around.tree path with
  | (tree, .ok ()) => .success tree (unlines [("Created config at " ++ path.text).toList])
  | (tree, .error error) => .failure tree (.create path error)

def versionText : String := "neckview 0.1.0\n"

def helpText : String :=
  "Live terminal dashboard for neck proxy sessions

Usage: neckview [OPTIONS] [COMMAND]

Commands:
  list         Fetch the session list once and print it
  config path  Show the path to the config file
  config init  Initialize a default config file (if not present)

Options:
      --server <URL>  Base URL of the neck server (overrides the config file)
  -v, --verbose...    Increase log verbosity (-v info, -vv debug, -vvv trace)
      --json          Print the list as JSON instead of a table
  -h, --help          Print help
  -V, --version       Print version
"

/-- Runs the command of a command line. What commands do to the files and print is all there is of it: nothing
here talks to the outside, and the files, the clocks and the server are given. -/
def run (around : Surroundings) (words : List String) : Outcome :=
  match Arguments.read words with
  | none => { exit := 2, errors := helpText.toList, tree := around.tree }
  | some arguments =>
    match arguments.command with
    | .dashboard => runDashboard around arguments.server
    | .list json => runList around arguments.server json
    | .configPath => .success around.tree (unlines [around.home.configFile.text.toList])
    | .configInit => runConfigInit around
    | .version => .success around.tree versionText.toList
    | .help => .success around.tree helpText.toList

end SessionBoard.Cli
