import WebSocketClient.Bytes
import WebSocketClient.Error

/-! # WebSockets

A WebSocket is known by handles that all mean the same connection. It carries a read window: the
octets of data payload that may still be delivered. Closing it shuts its channel down without an
error, as often as it is asked to.
-/
namespace WebSocketClient

abbrev ChannelId := Nat

abbrev SocketId := Nat

structure Socket where
  channel : ChannelId
  window : Nat
deriving DecidableEq

namespace Socket

/-- Opens the window further. It stays at the largest size once it is there. -/
def increment (s : Socket) (size : Nat) : Socket :=
  { s with window := saturatingAdd s.window size }

def render (s : Socket) (identity : String) : String :=
  "WebSocket \x7b id: " ++ identity ++ ", channel: " ++ toString s.channel ++
    ", read_window: " ++ toString s.window ++ " \x7d"

end Socket

/-- Sockets by identity, and the handles that have been given out, each naming one of them. -/
structure Sockets where
  sockets : List Socket
  handles : List SocketId
deriving DecidableEq

namespace Sockets

def empty : Sockets := ⟨[], []⟩

def create (s : Sockets) (socket : Socket) : Sockets :=
  ⟨s.sockets ++ [socket], s.handles ++ [s.sockets.length]⟩

def identity? (s : Sockets) (handle : Nat) : Option SocketId := s.handles[handle]?

def socket? (s : Sockets) (handle : Nat) : Option Socket :=
  (s.identity? handle).bind (s.sockets[·]?)

def clone (s : Sockets) (handle : Nat) : Sockets :=
  match s.identity? handle with
  | some id => { s with handles := s.handles ++ [id] }
  | none => s

def update (s : Sockets) (handle : Nat) (change : Socket → Socket) : Sockets :=
  match s.identity? handle with
  | some id => { s with sockets := s.sockets.modify id change }
  | none => s

def same (s : Sockets) (a b : Nat) : Bool :=
  (s.identity? a).isSome && s.identity? a == s.identity? b

def windows (s : Sockets) : List Nat :=
  s.handles.filterMap fun id => s.sockets[id]?.map (·.window)

end Sockets

end WebSocketClient
