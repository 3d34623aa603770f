import SessionBoard.Url.Address
import SessionBoard.Url.Domain

namespace SessionBoard

inductive WebScheme
  | http
  | https
  deriving DecidableEq, Repr

def WebScheme.label : WebScheme → String
  | .http => "http"
  | .https => "https"

/-- An address on the web. All its texts are in the form that they are written in. -/
structure Url where
  scheme : WebScheme
  user : List Char
  password : List Char
  host : List Char
  /-- The port, unless it is the usual one of the scheme. -/
  port : Option Nat
  /-- The parts of the path after its first slash, one at least. -/
  segments : List (List Char)
  query : Option (List Char)
  fragment : Option (List Char)
  deriving DecidableEq, Repr

inductive UrlFault
  | malformed
  /-- An address of a scheme that is not of the web. -/
  | foreign (scheme : String)
  deriving DecidableEq, Repr

namespace Url

def userText (url : Url) : List Char :=
  let password := if url.password.isEmpty then [] else ':' :: url.password
  if url.user.isEmpty ∧ url.password.isEmpty then [] else url.user ++ password ++ ['@']

def origin (url : Url) : List Char :=
  url.scheme.label.toList ++ [':', '/', '/'] ++ url.userText ++ url.host ++
    url.port.elim [] fun port => ':' :: (toString port).toList

def path (url : Url) : List Char := '/' :: List.intercalate ['/'] url.segments

def text (url : Url) : List Char :=
  url.origin ++ url.path ++ url.query.elim [] ('?' :: ·) ++ url.fragment.elim [] ('#' :: ·)

/-- A part of a path with its escaped points resolved, to compare it with the parts that lead back
or nowhere. -/
def pointsOf : List Char → List Char
  | '%' :: '2' :: 'e' :: rest => '.' :: pointsOf rest
  | '%' :: '2' :: 'E' :: rest => '.' :: pointsOf rest
  | char :: rest => char :: pointsOf rest
  | [] => []

/-- Follows the parts of a path from where `segments` lead. A part of two points leads back and one
of a single point nowhere; at the end of the path they leave a slash. -/
def follow (segments : List (List Char)) : List (List Char) → List (List Char)
  | [] => segments
  | part :: parts =>
    let slash := if parts.isEmpty then [[]] else []
    if pointsOf part = ['.', '.'] then follow (segments.dropLast ++ slash) parts
    else if pointsOf part = ['.'] then follow (segments ++ slash) parts
    else follow (segments ++ [escape pathEscapes part]) parts

/-- A backslash is as good as a slash. -/
def pathParts (text : List Char) : List (List Char) :=
  (text.map fun char => if char = '\\' then '/' else char).splitOn '/'

def withPath (url : Url) (path : List Char) : Url :=
  let parts := pathParts path
  let parts := if parts.length > 1 ∧ parts.head? = some [] then parts.drop 1 else parts
  { url with segments := follow [] parts }

/-- The address that a relative path leads to from the folder of this one. -/
def join (url : Url) (path : List Char) : Url :=
  { url with
    segments := follow url.segments.dropLast (pathParts path)
    query := none
    fragment := none }

def asFolder (url : Url) : Url :=
  if url.path.getLast? = some '/' then url else url.withPath (url.path ++ ['/'])

def isSchemeChar (char : Char) : Bool :=
  char.isAlphanum || char == '+' || char == '-' || char == '.'

def takeScheme (text : List Char) : Option (List Char × List Char) :=
  match text.dropWhile isSchemeChar with
  | ':' :: rest =>
    if text.head?.any Char.isAlpha then some ((text.takeWhile isSchemeChar).map Char.toLower, rest)
    else none
  | _ => none

/-- Spaces and controls around an address do not count, and neither do line ends and tabs in it. -/
def clean (text : List Char) : List Char :=
  let isAround := fun (char : Char) => decide (char.toNat ≤ 0x20)
  let text := ((text.dropWhile isAround).reverse.dropWhile isAround).reverse
  text.filter fun char => char ≠ '\t' ∧ char ≠ '\n' ∧ char ≠ '\r'

/-- The schemes whose hosts are names of the network, with their usual ports. -/
def networkSchemes : List (String × Nat) :=
  [("http", 80), ("https", 443), ("ws", 80), ("wss", 443), ("ftp", 21)]

/-- The characters that end the part of an address between its slashes and its path. -/
def endsAuthority (network : Bool) (char : Char) : Bool :=
  char == '/' || char == '?' || char == '#' || (network && char == '\\')

structure Authority where
  user : List Char
  password : List Char
  host : List Char
  port : Option Nat
  deriving DecidableEq, Repr

/-- User and password before an at sign, and the text after it. The last at sign counts. -/
def takeUser (network : Bool) (text : List Char) :
    Option ((List Char × List Char) × List Char) :=
  let region := text.takeWhile (!endsAuthority network ·)
  let after := (region.reverse.takeWhile (· ≠ '@')).reverse
  if after.length = region.length then some (([], []), text)
  else
    let before := region.take (region.length - after.length - 1)
    let rest := text.drop (region.length - after.length)
    if before.isEmpty then
      if after.isEmpty ∧ !rest.isEmpty then none else some (([], []), rest)
    else
      let user := before.takeWhile (· ≠ ':')
      let password := before.drop (user.length + 1)
      some ((escape userEscapes user, escape userEscapes password), rest)

/-- The host up to its port or path. A colon in brackets belongs to it. -/
def spanHost (network : Bool) : Bool → List Char → List Char × List Char
  | _, [] => ([], [])
  | inBrackets, char :: rest =>
    if (char = ':' ∧ !inBrackets) ∨ endsAuthority network char then ([], char :: rest)
    else
      let inBrackets := if char = '[' then true else if char = ']' then false else inBrackets
      let (host, rest) := spanHost network inBrackets rest
      (char :: host, rest)

def bracketed? (host : List Char) : Option (List Char) :=
  if host.length > 1 ∧ host.getLast? = some ']' then
    (eightPieces? (host.drop 1).dropLast).map fun pieces => '[' :: writeEightPieces pieces ++ [']']
  else none

/-- The normal form of the host of a network scheme. -/
def networkHost? (host : List Char) : Option (List Char) :=
  if host.head? = some '[' then bracketed? host
  else do
    let name ← Domain.toAscii (unescape (Text.Utf8.encode host))
    if name.isEmpty then none
    else if endsInNumber name then (fourOctets? name).map writeFourOctets
    else some name

def plainHost? (host : List Char) : Option (List Char) :=
  if host.head? = some '[' then bracketed? host
  else if host.any fun char =>
      ['\x00', '\t', '\n', '\r', ' ', '#', '/', ':', '<', '>', '?', '@', '[', '\\', ']', '^',
        '|'].contains char then none
  else some (escape [] host)

def takePort (usual : Option Nat) (text : List Char) : Option (Option Nat × List Char) :=
  let digits := text.takeWhile Char.isDigit
  let rest := text.dropWhile Char.isDigit
  let port := Nat.ofDigitChars 10 digits 0
  if 65535 < port ∨ rest.head?.any (!endsAuthority true ·) then none
  else some (if digits.isEmpty ∨ usual = some port then none else some port, rest)

def takeAuthority (usual : Option Nat) (text : List Char) : Option (Authority × List Char) := do
  let network := usual.isSome
  let ((user, password), text) ← takeUser network text
  let (host, rest) := spanHost network false text
  let host ← if network ∧ host.isEmpty then none
    else if network then networkHost? host else plainHost? host
  if host.isEmpty ∧ (rest.head? = some ':' ∨ !user.isEmpty ∨ !password.isEmpty) then none
  else match rest with
    | ':' :: rest =>
      let (port, rest) ← takePort usual rest
      return (⟨user, password, host, port⟩, rest)
    | rest => return (⟨user, password, host, none⟩, rest)

def readFragment : List Char → Option (List Char)
  | '#' :: rest => some (escape fragmentEscapes rest)
  | _ => none

def readQuery (text : List Char) : Option (List Char) × Option (List Char) :=
  match text with
  | '?' :: rest =>
    let inQuery := fun (char : Char) => decide (char ≠ '#')
    (some (escape queryEscapes (rest.takeWhile inQuery)), readFragment (rest.dropWhile inQuery))
  | text => (none, readFragment text)

/-- An address of a web scheme after its colon. Any number of slashes may follow. -/
def readWeb (scheme : WebScheme) (usual : Nat) (text : List Char) : Option Url := do
  let (authority, rest) ← takeAuthority (some usual)
    (text.dropWhile fun char => char = '/' ∨ char = '\\')
  let inPath := fun (char : Char) => decide (char ≠ '?' ∧ char ≠ '#')
  let (query, fragment) := readQuery (rest.dropWhile inPath)
  let url : Url := ⟨scheme, authority.user, authority.password, authority.host, authority.port, [],
    query, fragment⟩
  return url.withPath (rest.takeWhile inPath)

/-- Whether the text after the colon of a scheme that is not of the web makes an address. -/
def isForeign (scheme text : List Char) : Bool :=
  match networkSchemes.lookup (String.ofList scheme) with
  | some usual =>
    (takeAuthority (some usual) (text.dropWhile fun char => char = '/' ∨ char = '\\')).isSome
  | none =>
    if scheme = ['f', 'i', 'l', 'e'] then
      let isSlash := fun (char : Char) => char = '/' || char = '\\'
      if (text.take 2).length = 2 ∧ (text.take 2).all isSlash then
        let host := (text.drop 2).takeWhile (!endsAuthority true ·)
        isDriveOrEmpty host || (networkHost? host).isSome
      else true
    else if text.take 2 = ['/', '/'] then (takeAuthority none (text.drop 2)).isSome
    else true
where
  /-- A letter with a colon or a bar names a drive, not a host. -/
  isDriveOrEmpty : List Char → Bool
    | [] => true
    | [letter, mark] => letter.isAlpha && (mark == ':' || mark == '|')
    | _ => false

/-- Reads a text as a web address: it is cleaned, cut into its parts and brought to the one form that it is
written in. -/
def read (text : List Char) : Except UrlFault Url :=
  match takeScheme (clean text) with
  | none => .error .malformed
  | some (scheme, rest) =>
    if scheme = WebScheme.http.label.toList then (readWeb .http 80 rest).elim (.error .malformed) .ok
    else if scheme = WebScheme.https.label.toList then
      (readWeb .https 443 rest).elim (.error .malformed) .ok
    else if isForeign scheme rest then .error (.foreign (String.ofList scheme))
    else .error .malformed

end Url

end SessionBoard
