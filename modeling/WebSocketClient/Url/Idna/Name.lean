import WebSocketClient.Url.Idna.ContextTable
import WebSocketClient.Url.Idna.Mapping
import WebSocketClient.Url.Idna.Punycode

/-! # Domain names

A label does not start with a mark. A joiner stands only where it changes how letters are drawn.
In a name with text from right to left, each label keeps to one direction.
-/
namespace WebSocketClient.Url.Idna

inductive Direction
  | left
  | right
  | arabic
  | arabicNumber
  | europeanNumber
  | europeanSeparator
  | commonSeparator
  | europeanTerminator
  | neutral
  | boundary
  | nonspacing
deriving DecidableEq

namespace Direction

def numbered : Nat → Direction
  | 1 => right
  | 2 => arabic
  | 3 => arabicNumber
  | 4 => europeanNumber
  | 5 => europeanSeparator
  | 6 => commonSeparator
  | 7 => europeanTerminator
  | 8 => neutral
  | 9 => boundary
  | 10 => nonspacing
  | _ => left

def of (c : Char) : Direction := numbered (Row.valueAt directionRows c.toNat)

/-- Its presence makes a name one with text from right to left. -/
def isRightward : Direction → Bool
  | right | arabic | arabicNumber => true
  | _ => false

def isNumberOrNeutral : Direction → Bool
  | europeanNumber | europeanSeparator | commonSeparator | europeanTerminator | neutral
  | boundary | nonspacing => true
  | _ => false

end Direction

def isRightLabel (directions : List Direction) : Bool :=
  directions.all (fun d => d.isRightward || d.isNumberOrNeutral) &&
    (match directions.reverse.dropWhile (· == .nonspacing) with
      | .right :: _ | .arabic :: _ | .europeanNumber :: _ | .arabicNumber :: _ => true
      | _ => false) &&
    !(directions.contains .europeanNumber && directions.contains .arabicNumber)

def isLeftLabel (directions : List Direction) : Bool :=
  directions.all (fun d => d == .left || d.isNumberOrNeutral) &&
    (match directions.reverse.dropWhile (· == .nonspacing) with
      | .left :: _ | .europeanNumber :: _ => true
      | _ => false)

def isDirected (label : List Char) : Bool :=
  let directions := label.map Direction.of
  match directions with
  | [] => true
  | .left :: _ => isLeftLabel directions
  | .right :: _ | .arabic :: _ => isRightLabel directions
  | _ => false

inductive Joining
  | none
  | left
  | right
  | both
  | transparent
  | causing
deriving DecidableEq

namespace Joining

def numbered : Nat → Joining
  | 1 => left
  | 2 => right
  | 3 => both
  | 4 => transparent
  | 5 => causing
  | _ => none

def of (c : Char) : Joining := numbered (Row.valueAt joiningRows c.toNat)

end Joining

def joiner : Char := Char.ofNat 0x200d

def nonJoiner : Char := Char.ofNat 0x200c

def virama : Nat := 9

/-- The letters around a place join across it. `before` has the nearest character first. -/
def joinsAcross (before after : List Char) : Bool :=
  (match (before.map Joining.of).dropWhile (· == .transparent) with
    | .left :: _ | .both :: _ => true
    | _ => false) &&
  (match (after.map Joining.of).dropWhile (· == .transparent) with
    | .right :: _ | .both :: _ => true
    | _ => false)

def joinersFit : (before after : List Char) → Bool
  | _, [] => true
  | before, c :: after =>
    let afterVirama :=
      match before with
      | last :: _ => combiningClass last.toNat == virama
      | [] => false
    let fits :=
      if c = joiner then afterVirama
      else if c = nonJoiner then afterVirama || joinsAcross before after
      else true
    fits && joinersFit (c :: before) after

def isMark (c : Char) : Bool := (Row.find? markRows c.toNat).isSome

def isForbidden (c : Char) : Bool :=
  c.toNat ≤ 0x20 || c.toNat == 0x7f || "%#/:<>?@[\\]^|".toList.contains c

def isLabel (label : List Char) : Bool :=
  label.all (fun c => !isForbidden c) && joinersFit [] label &&
    match label with
    | c :: _ => !isMark c
    | [] => true

/-! ## Names in ASCII

A name is mapped and composed, its labels are checked, and each label outside ASCII is written in
punycode, which fails for overlong ones. A label that already is in punycode must stand for a label
that could have been written.
-/

def punycodeMark : List Char := ['x', 'n', '-', '-']

/-- The most characters of a label that is written in punycode. -/
def longestLabel : Nat := 1000

/-- The most characters in punycode that are read. -/
def longestPunycode : Nat := 2000

def readLabel (text : List Char) : Option (List Char) :=
  if punycodeMark.isPrefixOf text then
    let written := text.drop punycodeMark.length
    if written.getLast? = none ∨ written.getLast? = some '-' then none
    else if longestPunycode < written.length then none
    else
      match Punycode.decode written with
      | none => none
      | some label =>
        if label.all isStable && compose label == label && isLabel label then some label else none
  else if isLabel text then some text
  else none

/-- The ASCII form of a label. A label outside ASCII has none if it is too long. -/
def writeLabel (label : List Char) : Option (List Char) :=
  if label.all Punycode.isBasic then some label
  else if longestLabel < label.length then none
  else some (punycodeMark ++ Punycode.encode label)

/-- A name with text from right to left keeps one direction in each label. -/
def isNameDirected (labels : List (List Char)) : Bool :=
  !(labels.any (·.any fun c => (Direction.of c).isRightward)) || labels.all isDirected

def toAscii (name : List Char) : Option (List Char) :=
  match (mapName name).map compose with
  | none => none
  | some text =>
    match (text.splitOnP (· == '.')).mapM readLabel with
    | none => none
    | some labels =>
      if isNameDirected labels then
        (labels.mapM writeLabel).map fun texts => (texts.intersperse ['.']).flatten
      else none

end WebSocketClient.Url.Idna
