/-! # Octet strings

Header data and frame payload are octets, not text. Text enters as UTF-8, names are compared
without regard to ASCII case, and lengths on the wire are big-endian numbers.
-/
namespace WebSocketClient

abbrev Bytes := List UInt8

/-- The largest size the machine can count, and what "no limit" means for a byte count. -/
def maxSize : Nat := 0xffffffffffffffff

/-- Addition of sizes that stays at the largest one. -/
def saturatingAdd (a b : Nat) : Nat := min (a + b) maxSize

namespace Bytes

def ofChars (text : List Char) : Bytes := text.flatMap String.utf8EncodeChar

def ofString (text : String) : Bytes := ofChars text.toList

def lowerOctet (b : UInt8) : UInt8 := if 65 ≤ b ∧ b ≤ 90 then b + 32 else b

def lower (b : Bytes) : Bytes := b.map lowerOctet

def sameIgnoringCase (a b : Bytes) : Bool := lower a == lower b

/-- The number that the octets spell, most significant first. -/
def toNat (b : Bytes) : Nat := b.foldl (fun n octet => n * 256 + octet.toNat) 0

/-- The low `count` octets of `n`, most significant first. -/
def ofNat : (count n : Nat) → Bytes
  | 0, _ => []
  | count + 1, n => ofNat count (n / 256) ++ [UInt8.ofNat n]

def range : (count : Nat) → Nat
  | 0 => 1
  | count + 1 => 256 * range count

theorem length_ofNat (count n : Nat) : (ofNat count n).length = count := by
  induction count generalizing n with
  | zero => rfl
  | succ count ih => simp [ofNat, ih]

theorem toNat_append_singleton (b : Bytes) (octet : UInt8) :
    toNat (b ++ [octet]) = toNat b * 256 + octet.toNat := by
  simp [toNat]

theorem range_two : range 2 = 0xffff + 1 := rfl

theorem range_eight : range 8 = maxSize + 1 := rfl

theorem range_mono {few many : Nat} (h : few ≤ many) : range few ≤ range many := by
  induction h with
  | refl => exact Nat.le_refl _
  | step _ ih =>
    rw [range]
    omega

theorem toNat_ofNat (count n : Nat) : toNat (ofNat count n) = n % range count := by
  induction count generalizing n with
  | zero => simp [ofNat, toNat, range, Nat.mod_one]
  | succ count ih =>
    have split : n % range (count + 1) = n % 256 + 256 * (n / 256 % range count) := by
      rw [range, Nat.mod_mul]
    rw [ofNat, toNat_append_singleton, ih, UInt8.toNat_ofNat', split]
    omega

theorem toNat_lt (b : Bytes) : toNat b < range b.length := by
  induction h : b.length generalizing b with
  | zero => simp [List.length_eq_zero_iff.mp h, toNat, range]
  | succ n ih =>
    obtain rfl | ⟨front, octet, rfl⟩ := List.eq_nil_or_concat b
    · simp at h
    · have := ih front (by simpa using h)
      have := octet.toNat_lt
      rw [List.concat_eq_append, toNat_append_singleton, range]
      omega

theorem ofNat_toNat (b : Bytes) : ofNat b.length (toNat b) = b := by
  induction h : b.length generalizing b with
  | zero => simp [List.length_eq_zero_iff.mp h, ofNat]
  | succ n ih =>
    obtain rfl | ⟨front, octet, rfl⟩ := List.eq_nil_or_concat b
    · simp at h
    · have len : front.length = n := by simpa using h
      have := octet.toNat_lt
      rw [List.concat_eq_append, toNat_append_singleton, ofNat,
        show (toNat front * 256 + octet.toNat) / 256 = toNat front by omega, ih front len]
      congr 2
      apply UInt8.toNat.inj
      simp

end Bytes

end WebSocketClient
