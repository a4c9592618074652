import WebSocketClient.Handshake.Attempt

/-! # Steps of an attempt

An attempt listens to its connection and to the handshake stream. Every call on one of its faces is
an event, and what it makes its collaborators and the user's callbacks do in answer are effects, in
order. Where an effect asks a collaborator for something, the event brings the reply along.

After the connection exists, a failure is recorded and the connection closed. It is reported only
when the connection has shut down.
-/
namespace WebSocketClient.Handshake

inductive RequestReply
  | accepted (stream : StreamId)
  | refused (error : Error)
deriving DecidableEq

inductive HandlerReply
  | installed (socket : SocketId)
  | refused (error : Error)
deriving DecidableEq

inductive Outcome
  | opened (socket : SocketId)
  | failed (error : Error)
deriving DecidableEq

inductive Event
  | connected (connection : ConnectionId) (reply : RequestReply)
  | connectFailed (error : Error)
  | headers (stream : StreamId) (status : Option Status) (batch : List Header)
  /-- A stream completes. `channel` and `reply` are there in case the upgrade is accepted. -/
  | completed (stream : StreamId) (status : Option Status) (error : Option Error)
      (channel : Option ChannelId) (reply : HandlerReply)
  | shutDown (error : Option Error)
deriving DecidableEq

inductive Effect
  | request (connection : ConnectionId) (method : Method) (path : Bytes) (headers : List Header)
  | close (connection : ConnectionId)
  | newHandler (options : HandlerOptions)
  | setup (reaction : SetupReaction) (outcome : Outcome) (response : Response)
  | shutdown (socket : SocketId) (error : Option Error)
deriving DecidableEq

/-- Records a failure and closes the connection, unless one is recorded already. -/
def cancel (a : Attempt) (error : Error) : Attempt × List Effect :=
  if a.failure.isSome then (a, [])
  else
    ({ a with failure := some error, phase := .cancelling },
      a.connection.toList.map Effect.close)

def requestEffect (a : Attempt) (connection : ConnectionId) : Effect :=
  .request connection .get (a.request.arena.get a.requestPath) a.request.headers

def onConnected (a : Attempt) (connection : ConnectionId) (reply : RequestReply) :
    Attempt × List Effect :=
  let a := { a with connection := some connection }
  match reply with
  | .accepted stream =>
    ({ a with stream := some stream, phase := .awaitingResponse }, [requestEffect a connection])
  | .refused error =>
    let (after, effects) := cancel a error
    (after, requestEffect a connection :: effects)

/-- There is no connection to wait for, so the failure is reported at once. -/
def onConnectFailed (a : Attempt) (error : Error) : Attempt × List Effect :=
  ({ a with phase := .terminated, frameCallbacks := false, onSetup := none },
    a.onSetup.toList.map fun reaction => .setup reaction (.failed error) Response.none)

def onHeaders (a : Attempt) (status : Option Status) (batch : List Header) :
    Attempt × List Effect :=
  if a.phase ≠ .awaitingResponse then (a, [])
  else
    let pushed := a.response.pushAll batch
    let a := { a with status, response := pushed.store }
    match pushed.answer with
    | .ok () => (a, [])
    | .error error => cancel a error

def handlerOptions (a : Attempt) (channel : ChannelId) : HandlerOptions :=
  ⟨channel, a.initialWindow, a.manualWindow, a.frameCallbacks, false⟩

def reported (a : Attempt) : Response := ⟨a.status, a.response.headers⟩

def establish (a : Attempt) (socket : SocketId) : Attempt × List Effect :=
  ({ a with
      phase := .established
      socket := some socket
      onSetup := none
      response := a.response.taken },
    a.onSetup.toList.map fun reaction => .setup reaction (.opened socket) (reported a))

def validate (a : Attempt) (channel : Option ChannelId) (reply : HandlerReply) :
    Attempt × List Effect :=
  if a.status ≠ some .switchingProtocols then cancel a (.upgradeFailure a.status)
  else
    match channel with
    | none => cancel a .notConnected
    | some channel =>
      let asked := Effect.newHandler (handlerOptions a channel)
      let a := { a with frameCallbacks := false }
      let (after, effects) :=
        match reply with
        | .installed socket => establish a socket
        | .refused error => cancel a error
      (after, asked :: effects)

/-- The stream is let go of whatever else happens. -/
def onCompleted (a : Attempt) (status : Option Status) (error : Option Error)
    (channel : Option ChannelId) (reply : HandlerReply) : Attempt × List Effect :=
  let a := { a with stream := none }
  if a.phase ≠ .awaitingResponse then (a, [])
  else
    match error with
    | some error => cancel a error
    | none => validate { a with phase := .validating, status } channel reply

/-- While setup has not been reported, a shutdown is what ended the attempt. -/
def onShutDown (a : Attempt) (error : Option Error) : Attempt × List Effect :=
  let a :=
    { a with phase := .terminated, connection := none, stream := none, frameCallbacks := false }
  match a.onSetup with
  | some reaction =>
    let cause := (error <|> a.failure).getD .unknown
    ({ a with
        onSetup := none
        failure := if error.isSome then a.failure else none
        response := a.response.taken },
      [.setup reaction (.failed cause) (reported a)])
  | none =>
    let told := if a.onShutdown then a.socket.toList else []
    ({ a with onShutdown := false, socket := none }, told.map (Effect.shutdown · error))

def next (a : Attempt) : Event → Attempt × List Effect
  | .connected connection reply => onConnected a connection reply
  | .connectFailed error => onConnectFailed a error
  | .headers _ status batch => onHeaders a status batch
  | .completed _ status error channel reply => onCompleted a status error channel reply
  | .shutDown error => onShutDown a error

def run (a : Attempt) (events : List Event) : Attempt :=
  events.foldl (fun a e => (next a e).1) a

def effects (a : Attempt) : List Event → List Effect
  | [] => []
  | e :: rest => (next a e).2 ++ effects (next a e).1 rest

end WebSocketClient.Handshake
