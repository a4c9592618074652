/-! # Tables of code points

A table is a text of rows in ascending order. A row names a code point or a run of them in
hexadecimal, then perhaps a mark and code points that go with it.
-/
namespace WebSocketClient.Url.Idna

structure Row where
  first : Nat
  last : Nat
  mark : Option Char
  values : List Nat
deriving DecidableEq

namespace Row

def hexDigit? (c : Char) : Option Nat :=
  if '0' ≤ c ∧ c ≤ '9' then some (c.toNat - 48)
  else if 'a' ≤ c ∧ c ≤ 'f' then some (c.toNat - 87)
  else none

def readHex : (value : Nat) → List Char → Nat × List Char
  | value, [] => (value, [])
  | value, c :: rest =>
    match hexDigit? c with
    | some digit => readHex (value * 16 + digit) rest
    | none => (value, c :: rest)

def readValues (text : List Char) : List Nat :=
  (text.splitOnP (· == '.')).map fun word => (readHex 0 word).1

def parse (word : List Char) : Row :=
  let (first, rest) := readHex 0 word
  let (last, rest) :=
    match rest with
    | '-' :: rest => readHex 0 rest
    | rest => (first, rest)
  match rest with
  | [] => ⟨first, last, none, []⟩
  | mark :: [] => ⟨first, last, some mark, []⟩
  | mark :: rest => ⟨first, last, some mark, readValues rest⟩

def parseAll (text : String) : List Row :=
  ((text.toList.splitOnP (fun c => c == ' ' || c == '\n')).filter (· ≠ [])).map parse

def find? (rows : List Row) (point : Nat) : Option Row :=
  (rows.find? (point ≤ ·.last)).filter (·.first ≤ point)

/-- The first value that a table gives for a code point, or zero. -/
def valueAt (rows : List Row) (point : Nat) : Nat :=
  ((find? rows point).bind (·.values.head?)).getD 0

end Row

end WebSocketClient.Url.Idna
