import WebSocketClient.Url.Percent

/-! # Paths

A path is read segment by segment onto the path read so far. A segment of one dot adds nothing and
one of two dots takes the last segment back, also where the dots are percent-encoded.
-/
namespace WebSocketClient.Url

inductive SchemeKind
  | file
  /-- A scheme of the web other than `file`. -/
  | web
  | foreign
deriving DecidableEq

namespace SchemeKind

def ofScheme (scheme : List Char) : SchemeKind :=
  if scheme = "file".toList then file
  else if ["http", "https", "ws", "wss", "ftp"].any (·.toList == scheme) then web
  else foreign

/-- A backslash separates like a slash except under a foreign scheme. -/
def separates (kind : SchemeKind) (c : Char) : Bool := c == '/' || (c == '\\' && kind != foreign)

end SchemeKind

namespace Path

/-- Tabs and line ends do not count in a URL. -/
def isTabOrNewline (c : Char) : Bool := c == '\t' || c == '\n' || c == '\x0d'

def counted (text : List Char) : List Char := text.filter (!isTabOrNewline ·)

def isDriveLetter : List Char → Bool
  | [letter, colon] => letter.isAlpha && (colon == ':' || colon == '|')
  | _ => false

def isNormalDriveLetter (text : List Char) : Bool :=
  isDriveLetter text && text.getLast? == some ':'

def startsWithDriveLetter : List Char → Bool
  | letter :: colon :: rest =>
    isDriveLetter [letter, colon] &&
      match rest with
      | [] => true
      | c :: _ => c == '/' || c == '\\' || c == '?' || c == '#'
  | _ => false

/-- A drive letter that a tab or line end sets apart from the rest of its segment, and that rest. -/
def splitDriveLetter? (segment : List Char) : Option (List Char × List Char) :=
  match segment.dropWhile isTabOrNewline with
  | [] => none
  | letter :: rest =>
    match rest.dropWhile isTabOrNewline with
    | ':' :: gap :: after =>
      if letter.isAlpha && isTabOrNewline gap && counted after != [] then
        some ([letter, ':'], counted after)
      else none
    | _ => none

def endsWithSlash (path : List Char) : Bool := path.getLast? == some '/'

def splitLast (path : List Char) : List Char × List Char :=
  let tail := (path.reverse.takeWhile (· ≠ '/')).reverse
  (path.take (path.length - tail.length), tail)

/-- The last slash goes with the segment before it, unless that slash is the root or follows a
drive letter. -/
def lastSlashGoes (path : List Char) : Bool :=
  let (upTo, tail) := splitLast path.dropLast
  upTo != [] && !startsWithDriveLetter (tail ++ ['/'])

def shorten (kind : SchemeKind) (path : List Char) : List Char :=
  let (upTo, tail) := splitLast path
  if kind = .file ∧ isNormalDriveLetter tail then path else upTo

def dot (text : List Char) : Bool := text == ['.'] || text.map Char.toLower == ['%', '2', 'e']

/-- How many dots a segment stands for, if it stands for one or two. -/
def dots (segment : List Char) : Nat :=
  if dot segment then 1
  else if dot (segment.take 1) && dot (segment.drop 1) then 2
  else if dot (segment.take 3) && dot (segment.drop 3) then 2
  else 0

def slashAtEnd (path : List Char) : List Char := if endsWithSlash path then path else path ++ ['/']

/-- A path being read, and whether the host still stands beside it. A drive letter at its start
displaces the host. -/
structure Reading where
  path : List Char
  keepsHost : Bool
deriving DecidableEq

def slashIf (slash : Bool) : List Char := if slash then ['/'] else []

def Reading.addCounted (kind : SchemeKind) (r : Reading) (segment : List Char) (slash : Bool) :
    Reading :=
  match dots segment with
  | 1 => { r with path := slashAtEnd r.path }
  | 2 =>
    let path := if endsWithSlash r.path && lastSlashGoes r.path then r.path.dropLast else r.path
    let path := shorten kind path
    { r with path := if slash then slashAtEnd path else path }
  | _ =>
    if kind = .file ∧ r.path = ['/'] ∧ isDriveLetter segment then
      ⟨r.path ++ segment.take 1 ++ [':'] ++ slashIf slash, false⟩
    else { r with path := r.path ++ segment ++ slashIf slash }

/-- Adds one segment as it stands in the text, and whether a slash follows it. Where a file's path
starts with a drive letter set apart from the rest of its segment, a slash goes between the two.
The rest then is taken as it stands, dots included, and the host stays. -/
def Reading.add (kind : SchemeKind) (r : Reading) (text : List Char) (slash : Bool) : Reading :=
  match if kind = .file ∧ r.path = ['/'] then splitDriveLetter? text else none with
  | some (drive, rest) =>
    { r with path := r.path ++ drive ++ '/' :: percentEncode inPathSet rest ++ slashIf slash }
  | none => r.addCounted kind (percentEncode inPathSet (counted text)) slash

/-- Adds segments of which all but the last are followed by a slash. -/
def Reading.addAll (kind : SchemeKind) (r : Reading) : List (List Char) → Reading
  | [] => r
  | [segment] => r.add kind segment false
  | segment :: rest => (r.add kind segment true).addAll kind rest

/-- Reads a path text onto the path `start`. Under `file` a path has one slash in front. -/
def read (kind : SchemeKind) (start text : List Char) : Reading :=
  let r := (Reading.mk start true).addAll kind (text.splitOnP kind.separates)
  if kind = .file then { r with path := '/' :: r.path.dropWhile (· == '/') } else r

end Path

end WebSocketClient.Url
