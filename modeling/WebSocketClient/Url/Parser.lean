import WebSocketClient.Url.Basic
import WebSocketClient.Url.Path

/-! # Reading URLs

Surrounding blanks and inner tabs and line ends do not count, though a file's path can tell where
they stood. After the scheme comes an authority, under a scheme of the web after any number of
slashes and under a foreign one after exactly two, then a path, a query and a fragment.
-/
namespace WebSocketClient.Url

def isBlank (c : Char) : Bool := c.toNat ≤ 0x20

def trim (text : List Char) : List Char :=
  ((text.dropWhile isBlank).reverse.dropWhile isBlank).reverse

def isSchemeChar (c : Char) : Bool := c.isAlphanum || c == '+' || c == '-' || c == '.'

def splitScheme (text : List Char) : Option (List Char × List Char) :=
  let scheme := text.takeWhile isSchemeChar
  match scheme, text.drop scheme.length with
  | first :: _, ':' :: rest => if first.isAlpha then some (scheme.map Char.toLower, rest) else none
  | _, _ => none

def usualPort (scheme : List Char) : Option Nat :=
  ([("http", 80), ("https", 443), ("ws", 80), ("wss", 443), ("ftp", 21)].find?
    (·.1.toList == scheme)).map (·.2)

/-- The text before the first character that ends a part, and the rest from that character on. -/
def cut (ends : Char → Bool) (text : List Char) : List Char × List Char :=
  (text.takeWhile (!ends ·), text.dropWhile (!ends ·))

def endsPath (c : Char) : Bool := c == '?' || c == '#'

def endsAuthority (kind : SchemeKind) (c : Char) : Bool := endsPath c || kind.separates c

/-- A host and the text from the colon of its port on. A colon in brackets belongs to the host. -/
def splitHost : (bracketed : Bool) → List Char → List Char × List Char
  | _, [] => ([], [])
  | bracketed, c :: rest =>
    if c = ':' ∧ bracketed = false then ([], c :: rest)
    else
      let inside := if c = '[' then true else if c = ']' then false else bracketed
      let (host, after) := splitHost inside rest
      (c :: host, after)

/-- The port that digits after a colon give. No digits give none, and so does the usual port. -/
def readPort (scheme digits : List Char) : Except ParseError (Option Nat) :=
  match digits, Ipv4.readNumber 10 digits with
  | [], _ => .ok none
  | _, some port =>
    if port ≤ 65535 then .ok (if usualPort scheme = some port then none else some port)
    else .error .invalidPort
  | _, none => .error .invalidPort

def splitUserinfo (text : List Char) : List Char × List Char :=
  let (username, rest) := cut (· == ':') text
  (percentEncode inUserinfoSet username, percentEncode inUserinfoSet (rest.drop 1))

def splitAtSign (text : List Char) : Option (List Char × List Char) :=
  if text.contains '@' then
    let after := (text.reverse.takeWhile (· ≠ '@')).reverse
    some (text.take (text.length - after.length - 1), after)
  else none

def parseHost (kind : SchemeKind) (text : List Char) : Except ParseError (Option Host) :=
  if text = [] then
    if kind = .foreign then .ok none else .error .emptyHost
  else
    match if kind = .foreign then Host.parseVerbatim text else Host.parse text with
    | .ok host => .ok (some host)
    | .error e => .error e

/-- An authority, and the text that follows its port without ending the authority. -/
def parseAuthority (kind : SchemeKind) (scheme text : List Char) (more : Bool) :
    Except ParseError (Authority × List Char) := do
  let (userinfo, location) := (splitAtSign text).getD ([], text)
  if text.head? = some '@' ∧ location = [] ∧ text.length = 1 ∧ more then throw .emptyHost
  let (username, password) := splitUserinfo userinfo
  let (name, rest) := splitHost false location
  let host ← parseHost kind name
  if host = none ∧ rest ≠ [] then throw .emptyHost
  let (digits, after) := cut (· == '\\') (rest.drop 1)
  let port ← readPort scheme digits
  if host = none ∧ (username ≠ [] ∨ password ≠ []) then throw .emptyHost
  return (⟨username, password, host, port⟩, after)

def parseQuery (kind : SchemeKind) (text : List Char) : Option (List Char) × List Char :=
  match text with
  | '?' :: rest =>
    let (query, fragment) := cut (· == '#') rest
    let encodes := if kind = .foreign then inQuerySet else inSpecialQuerySet
    (some (percentEncode encodes query), fragment)
  | _ => (none, text)

def parseFragment : List Char → Option (List Char)
  | '#' :: rest => some (percentEncode inFragmentSet rest)
  | _ => none

def assemble (kind : SchemeKind) (scheme : List Char) (authority : Option Authority)
    (path tail : List Char) : Url :=
  let (query, rest) := parseQuery kind tail
  ⟨scheme, authority, path, query, parseFragment rest⟩

/-- A path after an authority. Under a scheme of the web it has a slash in front. -/
def pathAfterAuthority (kind : SchemeKind) (text : List Char) : Path.Reading :=
  match kind, text with
  | .foreign, [] => ⟨[], true⟩
  | .foreign, '/' :: _ => Path.read kind [] text
  | .foreign, _ => Path.read kind ['/'] text
  | _, c :: rest => Path.read kind ['/'] (if kind.separates c then rest else text)
  | _, [] => Path.read kind ['/'] []

def parseWithAuthority (kind : SchemeKind) (scheme text : List Char) : Except ParseError Url := do
  let (authorityText, rest) := cut (endsAuthority kind) text
  let (authority, after) ← parseAuthority kind scheme authorityText (rest != [])
  let (pathText, tail) := cut endsPath (after ++ rest)
  return assemble kind scheme (some authority) (pathAfterAuthority kind pathText).path tail

def parseForeign (scheme text : List Char) : Except ParseError Url :=
  match text with
  | '/' :: '/' :: rest => parseWithAuthority .foreign scheme rest
  | '/' :: rest =>
    let (pathText, tail) := cut endsPath rest
    .ok (assemble .foreign scheme none (Path.read .foreign ['/'] pathText).path tail)
  | _ =>
    let (pathText, tail) := cut endsPath text
    .ok (assemble .foreign scheme none (percentEncode isControl pathText) tail)

/-- The host of a file, if one is named. The local host is as good as none. -/
def parseFileHost (text : List Char) : Except ParseError (Option Host) :=
  if text = [] then .ok none
  else
    match Host.parse text with
    | .ok host => .ok (if host = .domain "localhost".toList then none else some host)
    | .error e => .error e

def noAuthority : Authority := ⟨[], [], none, none⟩

def afterSlashes? (text : List Char) : Option (List Char) :=
  match text.dropWhile Path.isTabOrNewline with
  | [] => none
  | a :: rest =>
    match rest.dropWhile Path.isTabOrNewline with
    | [] => none
    | b :: rest =>
      if SchemeKind.file.separates a && SchemeKind.file.separates b then some rest else none

/-- A file's URL, read from a text that still has its tabs and line ends. -/
def parseFile (scheme text : List Char) : Except ParseError Url :=
  match afterSlashes? text with
  | some rest => do
    let (hostText, after) := cut (endsAuthority .file) rest
    let hostText := Path.counted hostText
    let (hostText, after) := if Path.isDriveLetter hostText then ([], rest) else (hostText, after)
    let host ← parseFileHost hostText
    let (pathText, tail) := cut endsPath after
    let r :=
      if host = none then Path.read .file ['/'] pathText else pathAfterAuthority .file pathText
    return assemble .file scheme
      (some { noAuthority with host := if r.keepsHost then host else none }) r.path
      (Path.counted tail)
  | none =>
    let (pathText, tail) := cut endsPath text
    let start :=
      match Path.counted pathText with
      | [] => ['/']
      | c :: _ => if SchemeKind.file.separates c then [] else ['/']
    .ok (assemble .file scheme (some noAuthority) (Path.read .file start pathText).path
      (Path.counted tail))

def parse (text : List Char) : Except ParseError Url :=
  let text := trim text
  match splitScheme (Path.counted text) with
  | none => .error .relativeWithoutBase
  | some (scheme, rest) =>
    match SchemeKind.ofScheme scheme with
    | .file => parseFile scheme ((text.dropWhile (· ≠ ':')).drop 1)
    | .web => parseWithAuthority .web scheme (rest.dropWhile (SchemeKind.web.separates ·))
    | .foreign => parseForeign scheme rest

def ofString? (text : String) : Except ParseError Url := parse text.toList

end WebSocketClient.Url
