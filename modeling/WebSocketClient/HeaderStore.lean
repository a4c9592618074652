import WebSocketClient.Arena
import WebSocketClient.Http

/-! # Header stores

An ordered list of headers whose names and values live in one arena. A header is recorded only
after both its name and its value have been written, so a push that fails halfway records nothing,
although the name may have taken its room. The records have memory of their own, which comes from
the arena's allocator.
-/
namespace WebSocketClient

structure HeaderRef where
  name : ArenaRef
  value : ArenaRef
deriving DecidableEq

structure HeaderStore where
  arena : Arena
  records : List HeaderRef
  memory : Nat

/-- A step on a store: what it answers and the store it leaves, which a failure may change too. -/
structure Stored (α : Type) where
  answer : Except Error α
  store : HeaderStore

namespace HeaderStore

/-- The memory that one record takes. -/
def recordSize : Nat := 32

def empty (m : Allocator) : HeaderStore := ⟨Arena.empty m, [], 0⟩

def withCapacity (arena : Arena) (count : Nat) : Except Error HeaderStore := do
  arena.allocator.ask 0 (count * recordSize)
  return ⟨arena, [], arena.allocator.extended 0 (count * recordSize)⟩

/-- What is left of a store that has been taken away. -/
def taken (s : HeaderStore) : HeaderStore := empty s.arena.allocator

/-- Copies octets into the arena without recording a header. -/
def write (s : HeaderStore) (bytes : Bytes) : Stored ArenaRef :=
  let (answer, arena) := s.arena.write bytes
  ⟨answer, { s with arena }⟩

def needed (s : HeaderStore) : Nat := (s.records.length + 1) * recordSize

def makeRoom (s : HeaderStore) : Except Error Unit := s.arena.allocator.ask s.memory s.needed

def widened (s : HeaderStore) : HeaderStore :=
  { s with memory := s.arena.allocator.extended s.memory s.needed }

def record (s : HeaderStore) (r : HeaderRef) : HeaderStore :=
  { s with records := s.records ++ [r] }

/-- Room for the record comes first, so that nothing can fail once both octet strings are copied. -/
def push (s : HeaderStore) (h : Header) : Stored HeaderRef :=
  match s.makeRoom with
  | .error e => ⟨.error e, s⟩
  | .ok () =>
    match s.widened.write h.name with
    | ⟨.error e, named⟩ => ⟨.error e, named⟩
    | ⟨.ok name, named⟩ =>
      match named.write h.value with
      | ⟨.error e, valued⟩ => ⟨.error e, valued⟩
      | ⟨.ok value, valued⟩ => ⟨.ok ⟨name, value⟩, valued.record ⟨name, value⟩⟩

/-- Pushes headers in order up to the first that fails. -/
def pushAll (s : HeaderStore) : List Header → Stored Unit
  | [] => ⟨.ok (), s⟩
  | h :: rest =>
    match s.push h with
    | ⟨.error e, after⟩ => ⟨.error e, after⟩
    | ⟨.ok _, after⟩ => after.pushAll rest

def get? (s : HeaderStore) (r : ArenaRef) : Option Bytes := s.arena.get? r

def headers (s : HeaderStore) : List Header :=
  s.records.map fun r => ⟨s.arena.get r.name, s.arena.get r.value⟩

def length (s : HeaderStore) : Nat := s.records.length

def isEmpty (s : HeaderStore) : Bool := s.records.isEmpty

end HeaderStore

end WebSocketClient
