import WebSocketClient.Error
import WebSocketClient.Url.Idna.Name
import WebSocketClient.Url.Percent

/-! # Hosts

A host is a name or an address. An IPv4 address is written as up to four numbers between dots, each
in decimal, in octal after a zero or in hexadecimal after `0x`. The last number fills all octets
that the others leave.
-/
namespace WebSocketClient.Url

structure Ipv4 where
  value : UInt32
deriving DecidableEq

namespace Ipv4

def octets (a : Ipv4) : List Nat :=
  let n := a.value.toNat
  [n / 0x1000000, n / 0x10000 % 256, n / 0x100 % 256, n % 256]

def text (a : Ipv4) : List Char :=
  ((a.octets.map Nat.repr).map String.toList |>.intersperse ['.']).flatten

def readNumber (base : Nat) (text : List Char) : Option Nat :=
  text.foldl
    (fun value c =>
      match value, hexValue? c with
      | some n, some digit => if digit < base then some (n * base + digit) else none
      | _, _ => none)
    (some 0)

/-- The number that one part of an address spells. A bare base sign is zero. -/
def readPart : List Char → Option Nat
  | [] => none
  | '0' :: 'x' :: digits => readNumber 16 digits
  | '0' :: 'X' :: digits => readNumber 16 digits
  | ['0'] => some 0
  | '0' :: digits => readNumber 8 digits
  | digits => readNumber 10 digits

def readParts : List (List Char) → Option (List Nat)
  | [] => some []
  | part :: rest =>
    match readPart part, readParts rest with
    | some n, some numbers => some (n :: numbers)
    | _, _ => none

def splitParts (text : List Char) : List (List Char) :=
  let parts := text.splitOnP (· == '.')
  if parts.length > 1 ∧ parts.getLast? = some [] then parts.dropLast else parts

/-- A name whose last part is a number has to be an address. -/
def looksNumeric (name : List Char) : Bool :=
  match (splitParts name).getLast? with
  | some part => part != [] && (part.all Char.isDigit || (readPart part).isSome)
  | none => false

/-- The address that numbers stand for: all but the last are octets. -/
def ofNumbers (numbers : List Nat) : Option Ipv4 :=
  match numbers.reverse with
  | [] => none
  | last :: earlier =>
    let high := earlier.reverse
    if numbers.length ≤ 4 ∧ last < Bytes.range (4 - high.length) ∧ high.all (· ≤ 255) then
      let top := high.foldl (fun value octet => value * 256 + octet) 0
      some ⟨UInt32.ofNat (top * Bytes.range (4 - high.length) + last)⟩
    else none

def parse (text : List Char) : Except ParseError Ipv4 :=
  match (readParts (splitParts text)).bind ofNumbers with
  | some a => .ok a
  | none => .error .invalidIpv4

end Ipv4

/-! ## IPv6 addresses

An address is eight pieces of sixteen bits. Two texts are in use. In a URL the first longest run of
two or more zero pieces is left out. An address to dial is written the same way, except that an
IPv4 address mapped into IPv6 ends in dotted decimal.
-/

structure Ipv6 where
  pieces : List UInt16
  eight : pieces.length = 8
deriving DecidableEq

namespace Ipv6

def hexSmall (value : Nat) : Char :=
  if value < 10 then Char.ofNat (48 + value) else Char.ofNat (87 + value)

def pieceText (piece : UInt16) : List Char :=
  let n := piece.toNat
  let digits := [n / 4096, n / 256 % 16, n / 16 % 16, n % 16]
  ((digits.take 3).dropWhile (· == 0) ++ digits.drop 3).map hexSmall

def join (pieces : List UInt16) : List Char :=
  ((pieces.map pieceText).intersperse [':']).flatten

/-- Where the first longest run of zeros starts and how long it is. -/
def zeroRun : List UInt16 → Nat × Nat
  | [] => (0, 0)
  | piece :: rest =>
    let here := ((piece :: rest).takeWhile (· == 0)).length
    let (start, length) := zeroRun rest
    if here ≥ length then (0, here) else (start + 1, length)

def text (a : Ipv6) : List Char :=
  let (start, length) := zeroRun a.pieces
  if length < 2 then join a.pieces
  else join (a.pieces.take start) ++ [':', ':'] ++ join (a.pieces.drop (start + length))

def mapped? (a : Ipv6) : Option Ipv4 :=
  match a.pieces with
  | [0, 0, 0, 0, 0, 0xffff, high, low] =>
    some ⟨UInt32.ofNat (high.toNat * 65536 + low.toNat)⟩
  | _ => none

def dialText (a : Ipv6) : List Char :=
  match a.mapped? with
  | some v4 => [':', ':', 'f', 'f', 'f', 'f', ':'] ++ v4.text
  | none => a.text

/-- Pieces read so far, in reverse, and how many stood before the gap. The gap stands for one
zero piece at least, which is among the pieces. -/
structure Reading where
  reversed : List UInt16
  gap : Option Nat
deriving DecidableEq

def Reading.count (r : Reading) : Nat := r.reversed.length

def Reading.push (r : Reading) (piece : Nat) : Reading :=
  { r with reversed := UInt16.ofNat piece :: r.reversed }

/-- One octet of a dotted ending: decimal, at most 255, without a leading zero. -/
def readOctet (text : List Char) : Option Nat :=
  match text with
  | [] => none
  | '0' :: _ :: _ => none
  | _ =>
    match Ipv4.readNumber 10 text with
    | some n => if n ≤ 255 then some n else none
    | none => none

def readDotted (r : Reading) (text : List Char) : Option Reading :=
  match (text.splitOnP (· == '.')).map readOctet with
  | [some a, some b, some c, some d] =>
    if r.count ≤ 6 then some ((r.push (a * 256 + b)).push (c * 256 + d)) else none
  | _ => none

def isHex (c : Char) : Bool := (hexValue? c).isSome

def splitPiece (text : List Char) : List Char × List Char :=
  let digits := (text.take 4).takeWhile isHex
  (digits, text.drop digits.length)

/-- Reads pieces to the end of the text. Every round takes a character. -/
def readPieces : (rounds : Nat) → Reading → List Char → Option Reading
  | _, r, [] => some r
  | 0, _, _ => none
  | rounds + 1, r, c :: rest =>
    if r.count = 8 then none
    else if c = ':' then
      if r.gap.isSome then none
      else readPieces rounds { r.push 0 with gap := some (r.count + 1) } rest
    else
      let (digits, after) := splitPiece (c :: rest)
      let piece := (Ipv4.readNumber 16 digits).getD 0
      match after with
      | [] => some (r.push piece)
      | '.' :: _ => if digits = [] then none else readDotted r (c :: rest)
      | ':' :: [] => none
      | ':' :: more => readPieces rounds (r.push piece) more
      | _ => none

/-- Fills the gap with zeros up to eight pieces. Without a gap there must be eight. -/
def Reading.finish (r : Reading) : Option Ipv6 :=
  let read := r.reversed.reverse
  let pieces :=
    match r.gap with
    | some gap => read.take gap ++ List.replicate (8 - read.length) 0 ++ read.drop gap
    | none => read
  if h : pieces.length = 8 then some ⟨pieces, h⟩ else none

def parse? (text : List Char) : Option Ipv6 :=
  match text with
  | [] => none
  | _ :: [] => none
  | c :: d :: rest =>
    if c ≠ ':' then (readPieces text.length ⟨[], none⟩ text).bind Reading.finish
    else if d = ':' then (readPieces rest.length ⟨[0], some 1⟩ rest).bind Reading.finish
    else none

def parse (text : List Char) : Except ParseError Ipv6 :=
  match parse? text with
  | some a => .ok a
  | none => .error .invalidIpv6

end Ipv6

/-! ## Hosts under a scheme

Under the schemes of the web a name is a domain name, in ASCII and small letters, and a number is an
IPv4 address in whatever form it is written. Under any other scheme a name is kept as it stands.
-/

inductive Host
  | domain (name : List Char)
  | ipv4 (address : Ipv4)
  | ipv6 (address : Ipv6)
deriving DecidableEq

namespace Host

/-- The form used in URLs and in the `Host` header. -/
def text : Host → List Char
  | domain name => name
  | ipv4 a => a.text
  | ipv6 a => '[' :: a.text ++ [']']

def dialName : Host → List Char
  | domain name => name
  | ipv4 a => a.text
  | ipv6 a => a.dialText

def parseBracketed (text : List Char) : Except ParseError Host :=
  if text.getLast? = some ']' then
    match Ipv6.parse (text.dropLast.drop 1) with
    | .ok a => .ok (.ipv6 a)
    | .error e => .error e
  else .error .invalidIpv6

def parse (text : List Char) : Except ParseError Host :=
  if text.head? = some '[' then parseBracketed text
  else
    match (decodeUtf8? (percentDecode text)).bind Idna.toAscii with
    | none => .error .invalidInternationalName
    | some [] => .error .emptyHost
    | some name =>
      if Ipv4.looksNumeric name then
        match Ipv4.parse name with
        | .ok a => .ok (.ipv4 a)
        | .error e => .error e
      else .ok (.domain name)

def isForbiddenVerbatim (c : Char) : Bool :=
  c == '\x00' || "\t\n\x0d #/:<>?@[\\]^|".toList.contains c

def parseVerbatim (text : List Char) : Except ParseError Host :=
  if text.head? = some '[' then parseBracketed text
  else if text.any isForbiddenVerbatim then .error .invalidDomainCharacter
  else .ok (.domain (percentEncode isControl text))

end Host

end WebSocketClient.Url
