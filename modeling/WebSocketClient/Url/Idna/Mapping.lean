import WebSocketClient.Url.Idna.CompositionTable
import WebSocketClient.Url.Idna.MappingTable

/-! # Mapping

Each code point of a name is kept, dropped, replaced or refused. Capitals become small letters,
compatibility forms become plain ones, and the dots of other scripts become full stops.
-/
namespace WebSocketClient.Url.Idna

inductive Mapped
  | kept
  | dropped
  | refused
  | replaced (text : List Char)
deriving DecidableEq

def mapPoint (c : Char) : Mapped :=
  match Row.find? mappingRows c.toNat with
  | none => .kept
  | some row =>
    let offset := c.toNat - row.first
    match row.mark with
    | some '!' => .refused
    | some '_' => .dropped
    | some '=' => .replaced (row.values.map Char.ofNat)
    | some '>' => .replaced ((row.values.map (· + offset)).map Char.ofNat)
    | some '^' => if offset % 2 = 0 then .replaced [Char.ofNat (c.toNat + 1)] else .kept
    | _ => .kept

def mapName : List Char → Option (List Char)
  | [] => some []
  | c :: rest =>
    match mapPoint c with
    | .kept => (mapName rest).map (c :: ·)
    | .dropped => mapName rest
    | .refused => none
    | .replaced text => (mapName rest).map (text ++ ·)

def isStable (c : Char) : Bool := mapPoint c == .kept

/-! ## Canonical composition

A text is taken apart, the marks on each base are put into the order of their classes, and then
whatever composes is put together again. Two texts that look the same come out equal.
-/

def combiningClass (point : Nat) : Nat := Row.valueAt combiningClassRows point

namespace Hangul

def decompose? (point : Nat) : Option (List Nat) :=
  if 0xac00 ≤ point ∧ point < 0xd7a4 then
    let index := point - 0xac00
    let tail := index % 28
    some ([0x1100 + index / 588, 0x1161 + index % 588 / 28] ++
      if tail = 0 then [] else [0x11a7 + tail])
  else none

def compose? (a b : Nat) : Option Nat :=
  if 0x1100 ≤ a ∧ a < 0x1113 ∧ 0x1161 ≤ b ∧ b < 0x1176 then
    some (0xac00 + (a - 0x1100) * 588 + (b - 0x1161) * 28)
  else if 0xac00 ≤ a ∧ a < 0xd7a4 ∧ (a - 0xac00) % 28 = 0 ∧ 0x11a7 < b ∧ b < 0x11c3 then
    some (a + (b - 0x11a7))
  else none

end Hangul

/-- Takes a code point apart. No code point of the table nests deeper than `depth`. -/
def decomposePoint : (depth : Nat) → Nat → List Nat
  | 0, point => [point]
  | depth + 1, point =>
    match Hangul.decompose? point with
    | some parts => parts
    | none =>
      match Row.find? compositionRows point with
      | some row => row.values.flatMap (decomposePoint depth)
      | none => [point]

/-- Puts a mark in front of those marks of a higher class that precede it. The text is held with
its last code point first. -/
def insertMark (point : Nat) : List Nat → List Nat
  | [] => [point]
  | last :: earlier =>
    if combiningClass point ≠ 0 ∧ combiningClass point < combiningClass last then
      last :: insertMark point earlier
    else point :: last :: earlier

def orderMarks (text : List Nat) : List Nat :=
  (text.foldl (fun ordered point => insertMark point ordered) []).reverse

def composePair? (a b : Nat) : Option Nat :=
  (Hangul.compose? a b).orElse fun _ =>
    (compositionRows.find? (·.values == [a, b])).map (·.first)

/-- Composition in progress: finished text in reverse, the last base, and the marks that stayed
behind it in reverse with the class of the last one. -/
structure Composing where
  finished : List Nat
  base : Option Nat
  marks : List Nat
  lastClass : Option Nat

namespace Composing

def flush (s : Composing) : List Nat := s.marks ++ s.base.toList ++ s.finished

/-- A mark is cut off from its base by a mark between them of the same class or a higher one. -/
def reaches (s : Composing) (cls : Nat) : Bool :=
  match s.lastClass with
  | none => true
  | some last => last < cls

def add (s : Composing) (point : Nat) : Composing :=
  let cls := combiningClass point
  let joined := if s.reaches cls then s.base.bind (composePair? · point) else none
  match joined with
  | some whole => { s with base := some whole }
  | none =>
    if cls = 0 then ⟨s.flush, some point, [], none⟩
    else { s with marks := point :: s.marks, lastClass := some cls }

end Composing

def composeAll (text : List Nat) : List Nat :=
  (text.foldl Composing.add ⟨[], none, [], none⟩).flush.reverse

/-- The composed form of a text. Text in ASCII is its own. -/
def compose (text : List Char) : List Char :=
  if text.all (·.toNat < 128) then text
  else
    (composeAll (orderMarks (text.flatMap fun c => decomposePoint 8 c.toNat))).map Char.ofNat

end WebSocketClient.Url.Idna
