namespace SessionBoard.Cli

inductive Command
  | dashboard
  | list (json : Bool)
  | configPath
  | configInit
  | version
  | help
  deriving DecidableEq, Repr

structure Arguments where
  command : Command
  server : Option String := none
  /-- How often more log was asked for. -/
  verbosity : Nat := 0
  deriving DecidableEq, Repr

/-- Where on the way to a command the words have led. -/
inductive Level
  | top
  | list
  | config
  | configPath
  | configInit
  deriving DecidableEq, Repr

def Level.next? : Level → String → Option Level
  | .top, "list" => some .list
  | .top, "config" => some .config
  | .config, "path" => some .configPath
  | .config, "init" => some .configInit
  | _, _ => none

def Level.hasCommands : Level → Bool
  | .top | .config => true
  | .list | .configPath | .configInit => false

structure Options where
  server : Option String := none
  verbosity : Nat := 0
  json : Bool := false
  deriving DecidableEq, Repr

structure Progress where
  level : Level := .top
  options : Options := {}
  /-- The server and the verbosity from the levels before this one. -/
  outer : Options := {}
  deriving DecidableEq, Repr

namespace Progress

/-- The options that count: those of the innermost level that gives them. -/
def merged (progress : Progress) : Options where
  server := progress.options.server.or progress.outer.server
  verbosity :=
    if progress.options.verbosity = 0 then progress.outer.verbosity
    else progress.options.verbosity
  json := progress.options.json

def enter (progress : Progress) (level : Level) : Progress where
  level := level
  outer := progress.merged

/-- A server is named at most once at a level. -/
def withServer (progress : Progress) (server : String) : Option Progress :=
  if progress.options.server.isSome then none
  else some { progress with options := { progress.options with server := some server } }

def withVerbosity (progress : Progress) : Progress :=
  { progress with options := { progress.options with verbosity := progress.options.verbosity + 1 } }

/-- Only a list goes out as JSON, and it is asked for at most once. -/
def withJson (progress : Progress) : Option Progress :=
  if progress.level = .list ∧ !progress.options.json then
    some { progress with options := { progress.options with json := true } }
  else none

def command? (progress : Progress) : Option Command :=
  match progress.level with
  | .top => some .dashboard
  | .list => some (.list progress.options.json)
  | .config => none
  | .configPath => some .configPath
  | .configInit => some .configInit

def finish (progress : Progress) : Option Arguments := do
  let options := progress.merged
  return ⟨← progress.command?, options.server, options.verbosity⟩

end Progress

/-- What comes of an option: reading goes on, or a command that needs no more words. -/
abbrev OptionOutcome := Progress ⊕ Command

/-- Options of one letter that follow a single hyphen. -/
def readLetters (progress : Progress) : List Char → Option OptionOutcome
  | [] => some (.inl progress)
  | 'v' :: letters => readLetters progress.withVerbosity letters
  | 'V' :: _ => if progress.level = .top then some (.inr .version) else none
  | 'h' :: _ => some (.inr .help)
  | _ => none

def readFlag (progress : Progress) (name : String) : Option OptionOutcome :=
  match name with
  | "verbose" => some (.inl progress.withVerbosity)
  | "json" => progress.withJson.map .inl
  | "version" => if progress.level = .top then some (.inr .version) else none
  | "help" => some (.inr .help)
  | _ => none

/-- Whether a word is taken for an option where a value should stand. -/
def looksLikeOption (word : String) : Bool := word.startsWith "-" && word != "-"

/-- Whether words lead from a level to a command to be helped with. -/
def leadsSomewhere : Level → List String → Bool
  | _, [] => true
  | level, word :: words =>
    if level.hasCommands ∧ word = "help" then words.isEmpty
    else match level.next? word with
      | some level => leadsSomewhere level words
      | none => false

/-- Reads words from left to right. There is nothing where the first wrong one is met. -/
def readWords (progress : Progress) : List String → Option Arguments
  | [] => progress.finish
  | "--" :: words => if words.isEmpty then progress.finish else none
  | "--server" :: words =>
    match words with
    | [] => none
    | value :: words =>
      if looksLikeOption value then none
      else progress.withServer value >>= fun progress => readWords progress words
  | word :: words =>
    match word.toList with
    | '-' :: '-' :: 's' :: 'e' :: 'r' :: 'v' :: 'e' :: 'r' :: '=' :: value =>
      progress.withServer (String.ofList value) >>= fun progress => readWords progress words
    | '-' :: '-' :: name =>
      match readFlag progress (String.ofList name) with
      | some (.inl progress) => readWords progress words
      | some (.inr command) => some { command }
      | none => none
    | '-' :: letter :: letters =>
      match readLetters progress (letter :: letters) with
      | some (.inl progress) => readWords progress words
      | some (.inr command) => some { command }
      | none => none
    | _ =>
      if progress.level.hasCommands ∧ word = "help" then
        if leadsSomewhere progress.level words then some { command := .help } else none
      else match progress.level.next? word with
        | some level => readWords (progress.enter level) words
        | none => none

/-- Reads the words of a command line as one of its commands, with the options that count for it. -/
def Arguments.read (words : List String) : Option Arguments := readWords {} words

end SessionBoard.Cli
