import WebSocketClient.Bytes
import WebSocketClient.Error

/-! # Byte arenas

Header data handed to the client is only borrowed for one call. An arena copies it into one
append-only buffer, and a reference names a range of that buffer. The buffer never shrinks and
what is written in it never changes, so a reference stays good.

A buffer asks for memory only where it has too little. It may be refused, and may be given more than
it asked for. A fixed arena has all its memory from the start.
-/
namespace WebSocketClient

/-- Who gives memory to buffers. A buffer that had `held` octets of it and asked for `needed` gets
this many, or none. -/
structure Allocator where
  extend? : (held needed : Nat) → Option Nat
  le_extend : ∀ {held needed got}, extend? held needed = some got → needed ≤ got

namespace Allocator

/-- Whether a buffer can have memory for `needed` octets. -/
def ask (m : Allocator) (held needed : Nat) : Except Error Unit :=
  if needed ≤ held ∨ (m.extend? held needed).isSome then .ok () else .error .outOfMemory

def extended (m : Allocator) (held needed : Nat) : Nat :=
  if needed ≤ held then held else (m.extend? held needed).getD needed

def doubling (limit : Nat) : Allocator where
  extend? held needed := if needed < limit then some (max (2 * held) needed) else none
  le_extend := by
    intro held needed got given
    split at given
    · cases given
      exact Nat.le_max_right _ _
    · cases given

end Allocator

structure ArenaRef where
  offset : Nat
  length : Nat
deriving DecidableEq

namespace ArenaRef

def empty : ArenaRef := ⟨0, 0⟩

end ArenaRef

inductive ArenaMode
  | fixed (capacity : Nat)
  | growable
deriving DecidableEq

structure Arena where
  buffer : Bytes
  mode : ArenaMode
  memory : Nat
  allocator : Allocator

namespace Arena

def empty (m : Allocator) : Arena := ⟨[], .growable, 0, m⟩

def fixed (m : Allocator) (capacity : Nat) : Except Error Arena := do
  m.ask 0 capacity
  return ⟨[], .fixed capacity, m.extended 0 capacity, m⟩

def growable (m : Allocator) (capacity : Nat) : Except Error Arena := do
  m.ask 0 capacity
  return ⟨[], .growable, m.extended 0 capacity, m⟩

inductive Origin
  | fixed (capacity : Nat)
  | growable (capacity : Nat)
  | empty
deriving DecidableEq

def make (m : Allocator) : Origin → Except Error Arena
  | .fixed capacity => fixed m capacity
  | .growable capacity => growable m capacity
  | .empty => .ok (empty m)

def length (a : Arena) : Nat := a.buffer.length

def isEmpty (a : Arena) : Bool := a.buffer.isEmpty

def capacity? (a : Arena) : Option Nat :=
  match a.mode with
  | .fixed capacity => some capacity
  | .growable => none

/-- The reserved size of a fixed arena, or the memory of a growable one. -/
def capacity (a : Arena) : Nat := a.capacity?.getD a.memory

/-- What can still be written without failing, or without asking for memory. -/
def remaining (a : Arena) : Nat := a.capacity - a.length

def makeRoom (a : Arena) (size : Nat) : Except Error Unit :=
  match a.mode with
  | .fixed _ => if size > a.remaining then .error (.outOfSpace size a.remaining) else .ok ()
  | .growable => a.allocator.ask a.memory (a.length + size)

def append (a : Arena) (bytes : Bytes) : Arena :=
  { a with
    buffer := a.buffer ++ bytes
    memory := a.allocator.extended a.memory (a.length + bytes.length) }

/-- Copies `bytes` to the end of the buffer. A refused write leaves the arena as it was. -/
def write (a : Arena) (bytes : Bytes) : Except Error ArenaRef × Arena :=
  match a.makeRoom bytes.length with
  | .error e => (.error e, a)
  | .ok () => (.ok ⟨a.length, bytes.length⟩, a.append bytes)

def get? (a : Arena) (r : ArenaRef) : Option Bytes :=
  if r.offset + r.length ≤ a.length then some ((a.buffer.drop r.offset).take r.length) else none

/-- The octets of a range that is known to be there. -/
def get (a : Arena) (r : ArenaRef) : Bytes := (a.get? r).getD []

def writeAll (a : Arena) (writes : List Bytes) : Arena :=
  writes.foldl (fun a bytes => (a.write bytes).2) a

/-- The writes of a run that succeed, with the references that they answer. -/
def accepted (a : Arena) : List Bytes → List (ArenaRef × Bytes)
  | [] => []
  | bytes :: rest =>
    match a.write bytes with
    | (.error _, after) => after.accepted rest
    | (.ok r, after) => (r, bytes) :: after.accepted rest

end Arena

end WebSocketClient
