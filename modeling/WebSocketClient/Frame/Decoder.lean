import WebSocketClient.Frame.Basic

/-! # Incremental decoding

A decoder turns buffered octets into frame events, one at a time: the frame begins once its header
is complete, its payload passes in the pieces that happen to be there, and it is complete once it
owes nothing. A limit caps the payload of one event for data frames. Control frames ignore it.

The first two octets are judged before any of them is taken, so a header refused there is refused
again. The rules that need the whole header are judged after it has been taken.
-/
namespace WebSocketClient.Frame

structure Pending where
  frame : Header
  owed : Nat
deriving DecidableEq

structure Decoder where
  pending : Option Pending
  messageOpen : Bool
  limit : Nat
deriving DecidableEq

inductive HeaderRead
  | incomplete
  | refused (cause : Violation) (rest : Bytes)
  | read (frame : Header) (messageOpen : Bool) (rest : Bytes)
deriving DecidableEq

inductive Outcome
  /-- Nothing can be reported before there are more octets or a larger limit. -/
  | nothing
  | event (event : Event)
  | fault (cause : Violation)
deriving DecidableEq

structure Decoded where
  outcome : Outcome
  decoder : Decoder
  rest : Bytes
deriving DecidableEq

def extendedLength (code : Nat) : Nat :=
  if code = 126 then 2 else if code = 127 then 8 else 0

def reservedBits (first : UInt8) : Nat := first.toNat / 16 % 8

def opcodeBits (first : UInt8) : Nat := first.toNat % 16

def finBit (first : UInt8) : Bool := 128 ≤ first.toNat

def maskBit (second : UInt8) : Bool := 128 ≤ second.toNat

def lengthCode (second : UInt8) : Nat := second.toNat % 128

/-- The rules on a whole header, given whether a message is open. The answer says whether one is
open after it. -/
def judge (messageOpen : Bool) (frame : Header) : Except Violation Bool :=
  if frame.opcode.isControl then
    if !frame.fin then .error .controlFragmented
    else if frame.length > 125 then .error .controlTooLarge
    else .ok messageOpen
  else if frame.opcode = .continuation then
    if !messageOpen then .error .continuationWithoutMessage else .ok !frame.fin
  else if messageOpen then .error .messageInsideMessage
  else .ok !frame.fin

/-- What the first two octets already rule out. -/
def openingFault (first second : UInt8) : Option Violation :=
  if reservedBits first ≠ 0 then some .reservedBits
  else if OpCode.ofNat? (opcodeBits first) = none then some (.invalidOpCode (opcodeBits first))
  else if maskBit second then some .masked
  else none

def payloadLength (second : UInt8) (extension : Bytes) : Nat :=
  if extendedLength (lengthCode second) = 0 then lengthCode second else extension.toNat

def readHeader (messageOpen : Bool) : Bytes → HeaderRead
  | first :: second :: rest =>
    match openingFault first second, OpCode.ofNat? (opcodeBits first) with
    | some fault, _ => .refused fault (first :: second :: rest)
    | none, none => .incomplete
    | none, some opcode =>
      let extra := extendedLength (lengthCode second)
      if (rest.take extra).length < extra then .incomplete
      else
        let frame := ⟨opcode, finBit first, payloadLength second (rest.take extra)⟩
        match judge messageOpen frame with
        | .error fault => .refused fault (rest.drop extra)
        | .ok openAfter => .read frame openAfter (rest.drop extra)
  | _ => .incomplete

namespace Decoder

def initial : Decoder := ⟨none, false, maxSize⟩

def withLimit (d : Decoder) (limit : Nat) : Decoder := { d with limit }

def current (d : Decoder) : Option Header := d.pending.map (·.frame)

def isAwaitingPayload (d : Decoder) : Bool :=
  match d.pending with
  | some p => p.owed > 0 && p.frame.opcode.isData
  | none => false

def allowance (d : Decoder) (p : Pending) : Nat :=
  if p.frame.opcode.isData then min p.owed d.limit else p.owed

def decode (d : Decoder) (buffer : Bytes) : Decoded :=
  match d.pending with
  | none =>
    match readHeader d.messageOpen buffer with
    | .incomplete => ⟨.nothing, d, buffer⟩
    | .refused cause rest => ⟨.fault cause, d, rest⟩
    | .read frame messageOpen rest =>
      ⟨.event (.begin frame), { d with pending := some ⟨frame, frame.length⟩, messageOpen },
        rest⟩
  | some p =>
    if p.owed = 0 then
      ⟨.event (.complete p.frame), { d with pending := none }, buffer⟩
    else
      let data := buffer.take (d.allowance p)
      if data.isEmpty then ⟨.nothing, d, buffer⟩
      else
        ⟨.event (.payload p.frame data),
          { d with pending := some { p with owed := p.owed - data.length } },
          buffer.drop data.length⟩

end Decoder

/-- What a run of decoding steps reports. It ends with nothing, an error, or the step allowance. -/
structure Drained where
  events : List Event
  fault : Option Violation
  decoder : Decoder
  rest : Bytes
deriving DecidableEq

namespace Decoder

def drainSteps : (steps : Nat) → Decoder → Bytes → Drained
  | 0, d, buffer => ⟨[], none, d, buffer⟩
  | steps + 1, d, buffer =>
    let r := d.decode buffer
    match r.outcome with
    | .fault cause => ⟨[], some cause, r.decoder, r.rest⟩
    | .nothing => ⟨[], none, r.decoder, r.rest⟩
    | .event event =>
      let later := drainSteps steps r.decoder r.rest
      { later with events := event :: later.events }

/-- Decodes until nothing or an error comes. Every event but a completion takes an octet, and a
completion follows the start of its frame, so the steps allowed are never used up. -/
def drain (d : Decoder) (buffer : Bytes) : Drained := drainSteps (2 * buffer.length + 2) d buffer

end Decoder

end WebSocketClient.Frame
