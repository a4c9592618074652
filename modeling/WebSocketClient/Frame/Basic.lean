import WebSocketClient.Bytes

/-! # Frames

The low four bits of a frame say what the frame is for. Six values are defined. The other ten are
reserved and refused. A received frame is never held as a whole. All that describes it is its
header, and its payload passes by in pieces.
-/
namespace WebSocketClient.Frame

inductive OpCode
  | continuation
  | text
  | binary
  | close
  | ping
  | pong
deriving DecidableEq

namespace OpCode

def code : OpCode → Nat
  | continuation => 0
  | text => 1
  | binary => 2
  | close => 8
  | ping => 9
  | pong => 10

def ofNat? : Nat → Option OpCode
  | 0 => some continuation
  | 1 => some text
  | 2 => some binary
  | 8 => some close
  | 9 => some ping
  | 10 => some pong
  | _ => none

def name : OpCode → String
  | continuation => "Continuation"
  | text => "Text"
  | binary => "Binary"
  | close => "Close"
  | ping => "Ping"
  | pong => "Pong"

/-- Control frames cannot be split and carry at most 125 octets. -/
def isControl : OpCode → Bool
  | close | ping | pong => true
  | continuation | text | binary => false

def isData (o : OpCode) : Bool := !o.isControl

theorem ofNat?_code (o : OpCode) : ofNat? o.code = some o := by
  cases o <;> rfl

theorem code_lt (o : OpCode) : o.code < 16 := by
  cases o <;> decide

end OpCode

structure Header where
  opcode : OpCode
  fin : Bool
  length : Nat
deriving DecidableEq

inductive Event
  | begin (frame : Header)
  | payload (frame : Header) (data : Bytes)
  | complete (frame : Header)
deriving DecidableEq

namespace Event

def frame : Event → Header
  | begin f => f
  | payload f _ => f
  | complete f => f

def isCloseComplete : Event → Bool
  | complete f => f.opcode == .close
  | _ => false

end Event

inductive Violation
  | reservedBits
  | invalidOpCode (code : Nat)
  | masked
  | controlFragmented
  | controlTooLarge
  | continuationWithoutMessage
  | messageInsideMessage
deriving DecidableEq

namespace Violation

def message : Violation → String
  | reservedBits => "Reserved bits are not zero"
  | invalidOpCode code => s!"Invalid opcode (byte={code})"
  | masked => "Server frames must not be masked"
  | controlFragmented => "Control frame must not be fragmented"
  | controlTooLarge => "Control frame too large"
  | continuationWithoutMessage => "Invalid continuation frame"
  | messageInsideMessage => "Invalid fragment"

end Violation

end WebSocketClient.Frame
