import SessionBoard.Config
import SessionBoard.Text.Ranges
import SessionBoard.Url.Web

namespace SessionBoard

inductive ServerUrlError
  | invalid (text : String)
  | unsupported (scheme text : String)
  deriving DecidableEq, Repr

def ServerUrlError.message : ServerUrlError → String
  | .invalid text => "Invalid server URL '" ++ text ++ "'"
  | .unsupported scheme text =>
    "Unsupported scheme '" ++ scheme ++ "' in server URL '" ++ text ++ "' (expected http or https)"

def Url.readServer (text : String) : Except ServerUrlError Url :=
  match Url.read text.toList with
  | .ok url => .ok url
  | .error .malformed => .error (.invalid text)
  | .error (.foreign scheme) => .error (.unsupported scheme text)

def isSpace (char : Char) : Bool :=
  Text.inRanges [(0x9, 0xd), (0x20, 0x20), (0x85, 0x85), (0xa0, 0xa0), (0x1680, 0x1680),
    (0x2000, 0x200a), (0x2028, 0x2029), (0x202f, 0x202f), (0x205f, 0x205f), (0x3000, 0x3000)]
    char.toNat

def trim (text : List Char) : List Char :=
  ((text.dropWhile isSpace).reverse.dropWhile isSpace).reverse

/-- The server to talk to. A choice that is not blank goes before the settings. -/
def Config.serverUrl (config : Config) (choice : Option String) : Except ServerUrlError Url :=
  let chosen := trim (choice.elim [] String.toList)
  Url.readServer (if chosen.isEmpty then config.server else String.ofList chosen)

/-- The two addresses below that of the server that the board talks to: the session list and the push channel.
-/
structure Endpoints where
  sessions : Url
  events : Url
  deriving DecidableEq, Repr

/-- Both addresses are below the base address, whether that ends in a slash or not. -/
def Endpoints.ofBase (base : Url) : Endpoints :=
  ⟨base.asFolder.join "api/sessions".toList, base.asFolder.join "api/events".toList⟩

end SessionBoard
