import WebSocketClient.Http

/-! # Header maps

A connection delivers response headers from a map: names in small letters, and all values of a name
together where the name first appeared, in the order in which they arrived.
-/
namespace WebSocketClient.Connection

def lowerName (h : Header) : Header := { h with name := Bytes.lower h.name }

def named (name : Bytes) (headers : List Header) : List Header := headers.filter (·.name == name)

def notNamed (name : Bytes) (headers : List Header) : List Header :=
  headers.filter (·.name != name)

theorem length_notNamed (name : Bytes) (headers : List Header) :
    (notNamed name headers).length ≤ headers.length := List.length_filter_le ..

/-- Moves every header next to the first one of its name. -/
def group : List Header → List Header
  | [] => []
  | h :: rest => h :: named h.name rest ++ group (notNamed h.name rest)
termination_by headers => headers.length
decreasing_by exact Nat.lt_succ_of_le (length_notNamed ..)

def delivered (arrived : List Header) : List Header := group (arrived.map lowerName)

structure HeaderMap (M : Type) where
  empty : M
  append : M → Header → M
  names : M → List Bytes
  values : M → Bytes → List Bytes

namespace HeaderMap

section Map

variable {M : Type} (map : HeaderMap M)

/-- Names are in small letters and in the order in which they first appeared. The values of a name
are in the order in which they were put in. -/
structure Lawful : Prop where
  names_empty : map.names map.empty = []
  values_empty (name : Bytes) : map.values map.empty name = []
  names_append (m : M) (h : Header) : map.names (map.append m h) =
    if Bytes.lower h.name ∈ map.names m then map.names m
    else map.names m ++ [Bytes.lower h.name]
  values_append (m : M) (h : Header) (name : Bytes) : map.values (map.append m h) name =
    if name = Bytes.lower h.name then map.values m name ++ [h.value] else map.values m name

def collect (arrived : List Header) : M := arrived.foldl map.append map.empty

def headers (m : M) : List Header :=
  (map.names m).flatMap fun name => (map.values m name).map (⟨name, ·⟩)

/-- The one batch that a stream is told of. -/
def batch (arrived : List Header) : List Header := map.headers (map.collect arrived)

end Map

abbrev Entries := List (Bytes × List Bytes)

namespace Entries

def append : Entries → Header → Entries
  | [], h => [(Bytes.lower h.name, [h.value])]
  | (name, values) :: rest, h =>
    if name = Bytes.lower h.name then (name, values ++ [h.value]) :: rest
    else (name, values) :: append rest h

def values : Entries → Bytes → List Bytes
  | [], _ => []
  | (other, values) :: rest, name => if other = name then values else Entries.values rest name

end Entries

def entries : HeaderMap Entries := ⟨[], Entries.append, List.map Prod.fst, Entries.values⟩

end HeaderMap

end WebSocketClient.Connection
