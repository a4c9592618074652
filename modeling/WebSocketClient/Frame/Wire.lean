import WebSocketClient.Frame.Decoder

/-! # Frames as written on the wire

The other side of decoding: a frame with its payload, the octets that a server writes for it, and
which sequences of frames a client has to accept. A length may be written in a longer form than
it needs.
-/
namespace WebSocketClient.Frame

inductive LengthForm
  | sevenBit
  | sixteenBit
  | sixtyFourBit
deriving DecidableEq

structure Wire where
  opcode : OpCode
  fin : Bool
  payload : Bytes
  form : LengthForm
deriving DecidableEq

namespace LengthForm

def Holds : LengthForm → Nat → Prop
  | sevenBit, n => n ≤ 125
  | sixteenBit, n => n ≤ 0xffff
  | sixtyFourBit, n => n ≤ maxSize

instance : (form : LengthForm) → (n : Nat) → Decidable (form.Holds n)
  | sevenBit, n => inferInstanceAs (Decidable (n ≤ 125))
  | sixteenBit, n => inferInstanceAs (Decidable (n ≤ 0xffff))
  | sixtyFourBit, n => inferInstanceAs (Decidable (n ≤ maxSize))

/-- The second octet and the extended length for a length. -/
def encode : LengthForm → Nat → Bytes
  | sevenBit, n => [UInt8.ofNat n]
  | sixteenBit, n => 126 :: Bytes.ofNat 2 n
  | sixtyFourBit, n => 127 :: Bytes.ofNat 8 n

end LengthForm

namespace Wire

def header (w : Wire) : Header := ⟨w.opcode, w.fin, w.payload.length⟩

def firstOctet (w : Wire) : UInt8 := UInt8.ofNat ((if w.fin then 128 else 0) + w.opcode.code)

def encode (w : Wire) : Bytes := w.firstOctet :: w.form.encode w.payload.length ++ w.payload

structure Valid (w : Wire) : Prop where
  form_holds : w.form.Holds w.payload.length
  control_whole : w.opcode.isControl = true → w.fin = true ∧ w.payload.length ≤ 125

/-- `Conversation isOpen frames after`: the frames may follow each other when a message is open or
not as `isOpen` says, and leave one open or not as `after` says. -/
inductive Conversation : Bool → List Wire → Bool → Prop
  | nil (isOpen : Bool) : Conversation isOpen [] isOpen
  | control {isOpen after : Bool} {w : Wire} {rest : List Wire} : w.Valid →
      w.opcode.isControl = true → Conversation isOpen rest after →
      Conversation isOpen (w :: rest) after
  | start {after : Bool} {w : Wire} {rest : List Wire} : w.Valid →
      w.opcode = .text ∨ w.opcode = .binary → Conversation (!w.fin) rest after →
      Conversation false (w :: rest) after
  | resume {after : Bool} {w : Wire} {rest : List Wire} : w.Valid →
      w.opcode = .continuation → Conversation (!w.fin) rest after →
      Conversation true (w :: rest) after

end Wire

def encodeAll (frames : List Wire) : Bytes := frames.flatMap Wire.encode

end WebSocketClient.Frame
