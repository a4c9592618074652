import WebSocketClient.HeaderStore
import WebSocketClient.Http
import WebSocketClient.Options
import WebSocketClient.Socket
import WebSocketClient.Stream

/-! # Connection attempts

The state of one attempt from the moment it is validated until its connection is gone. The request
is copied when the attempt starts and the response as it arrives, so both outlive the calls that
bring them. A callback that has been called is no longer held.
-/
namespace WebSocketClient.Handshake

abbrev ConnectionId := Nat

inductive Phase
  | awaitingConnection
  | awaitingResponse
  | validating
  | established
  | cancelling
  | terminated
deriving DecidableEq

structure Attempt where
  phase : Phase
  initialWindow : Nat
  manualWindow : Bool
  onSetup : Option SetupReaction
  onShutdown : Bool
  frameCallbacks : Bool
  request : HeaderStore
  requestPath : ArenaRef
  response : HeaderStore
  status : Option Status
  failure : Option Error
  socket : Option SocketId
  connection : Option ConnectionId
  stream : Option StreamId

structure Dial where
  host : List Char
  port : Nat
  socket : SocketOptions
  tls : Bool
  httpWindow : Nat
deriving DecidableEq

structure HandlerOptions where
  channel : ChannelId
  initialWindow : Nat
  manualWindow : Bool
  callbacks : Bool
  isServer : Bool
deriving DecidableEq

end WebSocketClient.Handshake
