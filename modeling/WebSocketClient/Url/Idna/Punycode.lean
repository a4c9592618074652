/-! # Punycode

A label outside ASCII is written with its ASCII characters first, a hyphen if there are any, and
then, as numbers of mixed base 36, where each other character is to be inserted. Digits come least
significant first, and the base of each depends on a bias that adapts to the numbers seen so far.
-/
namespace WebSocketClient.Url.Idna.Punycode

def digit (value : Nat) : Char :=
  if value < 26 then Char.ofNat (97 + value) else Char.ofNat (22 + value)

def digitValue? (c : Char) : Option Nat :=
  if 'a' ≤ c ∧ c ≤ 'z' then some (c.toNat - 97)
  else if '0' ≤ c ∧ c ≤ '9' then some (c.toNat - 22)
  else none

/-- The smallest digit at `position` that does not end a number. -/
def threshold (bias position : Nat) : Nat := min 26 (max 1 (position - bias))

/-- The bias that follows a number `delta`, when `count` characters are in place. -/
def adapt (delta count : Nat) (first : Bool) : Nat :=
  let start := if first then delta / 700 else delta / 2
  shrink (start + start / count) 0
where
  shrink (delta steps : Nat) : Nat :=
    if 455 < delta then shrink (delta / 35) (steps + 36)
    else steps + 36 * delta / (delta + 38)
  termination_by delta
  decreasing_by omega

theorem threshold_bounds (bias position : Nat) :
    1 ≤ threshold bias position ∧ threshold bias position ≤ 26 := by
  unfold threshold
  omega

def encodeNumber (bias position value : Nat) : List Char :=
  let low := threshold bias position
  if value < low then [digit value]
  else
    digit (low + (value - low) % (36 - low)) ::
      encodeNumber bias (position + 36) ((value - low) / (36 - low))
termination_by value
decreasing_by
  have bounds := threshold_bounds bias position
  have := Nat.div_le_self (value - threshold bias position) (36 - threshold bias position)
  omega

structure Encoding where
  written : List Char
  delta : Nat
  bias : Nat
  placed : Nat

/-- Passes one character of the label while the characters equal to `point` are being placed. -/
def passOver (basic point : Nat) (e : Encoding) (c : Char) : Encoding :=
  if c.toNat < point then { e with delta := e.delta + 1 }
  else if c.toNat = point then
    { written := e.written ++ encodeNumber e.bias 36 e.delta
      delta := 0
      bias := adapt e.delta (e.placed + 1) (e.placed == basic)
      placed := e.placed + 1 }
  else e

def placeAll (label : List Char) (basic : Nat) : List Nat → (reached : Nat) → Encoding → Encoding
  | [], _, e => e
  | point :: points, reached, e =>
    let e := { e with delta := e.delta + (point - reached) * (e.placed + 1) }
    let e := label.foldl (passOver basic point) e
    placeAll label basic points (point + 1) { e with delta := e.delta + 1 }

def isBasic (c : Char) : Bool := c.toNat < 128

def encode (label : List Char) : List Char :=
  let basic := label.filter isBasic
  let points := ((label.filter (!isBasic ·)).map Char.toNat).mergeSort.eraseReps
  let e := placeAll label basic.length points 128 ⟨[], 0, 72, basic.length⟩
  basic ++ (if basic.isEmpty then [] else ['-']) ++ e.written

/-- Reads one number: what it adds to `sum`, and the text after it. -/
def decodeNumber (bias : Nat) : List Char → (position weight sum : Nat) → Option (Nat × List Char)
  | [], _, _, _ => none
  | c :: rest, position, weight, sum =>
    match digitValue? c with
    | none => none
    | some value =>
      let low := threshold bias position
      if value < low then some (sum + value * weight, rest)
      else decodeNumber bias rest (position + 36) (weight * (36 - low)) (sum + value * weight)

theorem length_of_decodeNumber {bias : Nat} {text : List Char} {position weight sum : Nat}
    {r : Nat × List Char} (h : decodeNumber bias text position weight sum = some r) :
    r.2.length < text.length := by
  induction text generalizing position weight sum with
  | nil => simp [decodeNumber] at h
  | cons c rest ih =>
    rw [decodeNumber] at h
    split at h
    · simp at h
    · simp only at h
      split at h
      · cases h
        simp
      · have := ih h
        simp only [List.length_cons]
        omega

def isScalar (point : Nat) : Bool := point < 0xd800 || (0xdfff < point && point < 0x110000)

/-- Inserts the characters that `text` tells of into `label`. No character before `point` is left
to insert, nor one equal to it before `index`. -/
def insertAll (text : List Char) (point index bias : Nat) (label : List Char) :
    Option (List Char) :=
  if text.isEmpty then some label
  else
    match _h : decodeNumber bias text 36 1 index with
    | none => none
    | some (sum, rest) =>
      let count := label.length + 1
      let point := point + sum / count
      if isScalar point then
        insertAll rest point (sum % count + 1) (adapt (sum - index) count (index == 0))
          (label.insertIdx (sum % count) (Char.ofNat point))
      else none
termination_by text.length
decreasing_by exact length_of_decodeNumber _h

/-- The ASCII characters in front of the last hyphen, and the numbers after it. A hyphen with
nothing in front of it divides nothing and stays with the numbers. -/
def splitBasic (text : List Char) : List Char × List Char :=
  let numbers := (text.reverse.takeWhile (· ≠ '-')).reverse
  match text.take (text.length - numbers.length - 1) with
  | [] => ([], text)
  | basic => (basic, numbers)

def decode (text : List Char) : Option (List Char) :=
  let (basic, numbers) := splitBasic text
  if basic.all isBasic then insertAll numbers 128 0 72 basic else none

end WebSocketClient.Url.Idna.Punycode
