import WebSocketClient.Connection.Task
import WebSocketClient.Handshake.Start
import WebSocketClient.Rehearsal.Script
import WebSocketClient.Stream

/-! # Sessions

The run of a script. A session holds the attempt and everything that its collaborators remember,
and logs what the attempt asks of them and what the user's callbacks are told.
-/
namespace WebSocketClient.Rehearsal

def channelId : ChannelId := 2

/-- All the memory that an address space has. -/
def memory : Allocator := .doubling 0x800000000000

structure Reader where
  handler : Framing.Handler
  socket : SocketId
  keeps : Bool
deriving DecidableEq

structure Session where
  collaborators : Collaborators
  reactions : Reactions
  factory : HandlerFactory
  attempt : Option Handshake.Attempt
  listening : Bool
  connected : Bool
  connections : Nat
  closes : Nat
  stream : Option Stream.State
  streams : Nat
  sockets : List Socket
  given : Option SocketId
  installed : Option Reader
  running : Option Reader
  arrivals : List Arrival
  frameCalls : Nat
  log : List Entry

namespace Session

def new (collaborators : Collaborators) (reactions : Reactions) (factory : HandlerFactory) :
    Session :=
  { collaborators, reactions, factory
    attempt := none
    listening := false
    connected := false
    connections := 0
    closes := 0
    stream := none
    streams := 0
    sockets := []
    given := none
    installed := none
    running := none
    arrivals := []
    frameCalls := 0
    log := [] }

def note (s : Session) (e : Entry) : Session := { s with log := s.log ++ [e] }

def socket? (s : Session) (id : SocketId) : Option Socket := s.sockets[id]?

def windowOf (s : Session) (id : SocketId) : Nat := ((s.socket? id).map (·.window)).getD 0

def setWindow (s : Session) (id : SocketId) (window : Nat) : Session :=
  { s with sockets := s.sockets.modify id fun socket => { socket with window } }

def grant (s : Session) (id : SocketId) (size : Nat) : Session :=
  { s with sockets := s.sockets.modify id (·.increment size) }

/-- The newest stream is the one that the attempt holds. -/
def isHeld (s : Session) (a : Handshake.Attempt) : Bool := a.stream == some (s.streams - 1)

def releaseStream (s : Session) (before after : Handshake.Attempt) : Session :=
  if s.isHeld before && !s.isHeld after then
    { s with stream := s.stream.map fun stream => (Stream.next stream .drop).1 }
  else s

def handlerReply (s : Session) : Handshake.HandlerReply :=
  let error :=
    match s.factory with
    | .scripted => s.collaborators.factoryError
    | .framing => s.collaborators.installError
  match error with
  | some e => .refused e
  | none => .installed s.sockets.length

/-- What a factory does: the scripted one only makes the WebSocket. -/
def makeHandler (s : Session) (options : Handshake.HandlerOptions) : Session :=
  match s.factory with
  | .scripted =>
    let s := s.note (.newHandler options)
    if s.collaborators.factoryError.isSome then s
    else { s with sockets := s.sockets ++ [⟨options.channel, options.initialWindow⟩] }
  | .framing =>
    let reply :=
      match s.collaborators.installError with
      | some e => Framing.InstallReply.refused e
      | none => .installed
    let made := Framing.make options reply
    let s := if made.offered.isSome then s.note .installed else s
    match made.socket with
    | .error _ => s
    | .ok socket =>
      { s with
        sockets := s.sockets ++ [socket]
        installed := made.offered.map fun handler => ⟨handler, s.sockets.length, true⟩ }

def setUp (s : Session) (reaction : SetupReaction) (outcome : Handshake.Outcome)
    (response : Response) : Session :=
  let found := reaction.lookup.map response.header
  match outcome with
  | .failed error => s.note (.setup (some error) none response found)
  | .opened id =>
    let s := { s with given := some id }
    let s := s.note (.setup none (some (s.windowOf id)) response found)
    let s :=
      match reaction.grant with
      | some size => s.grant id size
      | none => s
    if reaction.closes then s.note .channelShutDown else s

def perform (s : Session) : Handshake.Effect → Session
  | .request _ method path headers => s.note (.request method path headers)
  | .close _ => { s.note .connectionClosed with closes := s.closes + 1 }
  | .newHandler options => s.makeHandler options
  | .setup reaction outcome response => s.setUp reaction outcome response
  | .shutdown id error => s.note (.shutdown error (s.given.map (· == id)) (s.windowOf id))

def performAll (s : Session) (effects : List Handshake.Effect) : Session :=
  effects.foldl perform s

def inform (s : Session) (event : Handshake.Event) : Session :=
  match s.attempt with
  | none => s
  | some before =>
    let (after, effects) := Handshake.next before event
    let s := s.releaseStream before after
    { s with attempt := some after }.performAll effects

def connect (s : Session) : Session :=
  match s.collaborators.requestError with
  | some error => s.inform (.connected s.connections (.refused error))
  | none =>
    let shared := (Stream.next Stream.initial .clone).1
    let id := s.streams
    let s := s.inform (.connected s.connections (.accepted id))
    { s with stream := some shared, streams := id + 1 }

def streamEvent (s : Session) (stream : Stream.State) :
    Stream.Callback → Option Handshake.Event
  | .headers batch => some (.headers (s.streams - 1) stream.status batch)
  | .complete error =>
    let channel := if s.collaborators.noChannel then none else some channelId
    some (.completed (s.streams - 1) stream.status error channel s.handlerReply)
  | .blockDone _ | .body _ | .requestEnd => none

def deliver (s : Session) (stream : Stream.State) (callback : Stream.Callback) :
    Session × Result :=
  let result := if callback.isComplete then Result.truth stream.listening else .nothing
  match Stream.next stream (.call callback) with
  | (_, none) => (s, result)
  | (during, some callback) =>
    let s := { s with stream := some during }
    let s :=
      match s.streamEvent during callback with
      | some event => s.inform event
      | none => s
    ({ s with stream := s.stream.map fun t => (Stream.next t .returned).1 }, result)

def actionsAt (s : Session) (count : Nat) : List Action :=
  (s.reactions.actions.filter (·.1 == count)).map (·.2)

def isPayload : Framing.Call → Bool
  | .event (.payload _ _) => true
  | _ => false

def act (id : SocketId) (s : Session) : Action → Session
  | .abort => s
  | .grant size => s.grant id size
  | .close => s.note .channelShutDown

/-- A frame callback runs: it may take a grant, then it takes its actions. The answer says whether
the connection is to be kept. -/
def callBack (s : Session) (id : SocketId) (call : Framing.Call) : Session × Bool :=
  let window := s.windowOf id
  let actions := s.actionsAt s.frameCalls
  let s := { s.note (.frame call window) with frameCalls := s.frameCalls + 1 }
  let s :=
    match s.reactions.grants with
    | size :: rest =>
      if isPayload call && window == 0 then
        { s with reactions := { s.reactions with grants := rest } }.grant id size
      else s
    | [] => s
  (actions.foldl (act id) s, !actions.contains .abort)

/-- What the transport answers to a read, if it has anything. The end of the stream stays. -/
def nextArrival (s : Session) : Option (Framing.Input × List Arrival) :=
  match s.arrivals with
  | [] => none
  | .data bytes :: rest => some (.read bytes, rest)
  | .ended :: _ => some (.read [], s.arrivals)
  | .failed kind :: rest => some (.readFailed kind, rest)

/-- What a running handler can be given next. A callback that was called has run and returns. -/
def nextInput (s : Session) (reader : Reader) : Option (Framing.Input × List Arrival) :=
  match reader.handler.phase with
  | .ready => some (.turn, s.arrivals)
  | .blocked => if s.windowOf reader.socket = 0 then none else some (.turn, s.arrivals)
  | .reading => s.nextArrival
  | .calling _ | .interrupting _ => some (.answer reader.keeps, s.arrivals)
  | .finished _ => none

def advance (s : Session) (reader : Reader) (input : Framing.Input) : Session :=
  let seen := { reader.handler with window := s.windowOf reader.socket }
  let (handler, calls) := seen.next input
  let s := s.setWindow reader.socket handler.window
  match calls with
  | [] => { s with running := some { reader with handler } }
  | call :: _ =>
    let (s, keeps) := s.callBack reader.socket call
    { s with running := some { reader with handler, keeps } }

def settle : (rounds : Nat) → Session → Session
  | 0, s => s
  | rounds + 1, s =>
    match s.running with
    | none => s
    | some reader =>
      match s.nextInput reader with
      | none => s
      | some (input, arrivals) => settle rounds ({ s with arrivals }.advance reader input)

def arrivalSize : Arrival → Nat
  | .data bytes => bytes.length
  | .ended | .failed _ => 0

/-- More rounds than a handler can use on what it holds and what has arrived. -/
def rounds (s : Session) : Nat :=
  let held := (s.running.map fun r => r.handler.buffer.length).getD 0
  let coming := s.arrivals.foldl (fun size arrival => size + arrivalSize arrival) 0
  16 * (held + coming + s.arrivals.length + 4)

def settled (s : Session) : Session := settle s.rounds s

def runHandler (s : Session) : Session × Result :=
  match s.installed with
  | none => (s, .noHandler)
  | some reader => ({ s with installed := none, running := some reader }.settled, .nothing)

/-- Takes what the framing handler returned. One that is still running has returned nothing and
stays. -/
def takeHandlerResult (s : Session) : Session × Option Error :=
  match s.running.bind (·.handler.result?) with
  | some error => ({ s with running := none }, error)
  | none => (s, none)

/-- The connection reports its end. The listener is used up whether or not there is a
connection. -/
def shutDown (s : Session) (error : Option Error) : Session × Result :=
  if s.connected then
    ({ s with listening := false, connected := false }.inform (.shutDown error), .nothing)
  else ({ s with listening := false }, .noConnection)

def stepStream (s : Session) (act : Stream.State → Session × Result) : Session × Result :=
  match s.stream with
  | some stream => act stream
  | none => (s, .noStream)

def stepSocket (s : Session) (act : SocketId → Session) : Session × Result :=
  match s.given with
  | some id => (act id, .nothing)
  | none => (s, .noWebSocket)

def step (s : Session) : Step → Session × Result
  | .connected =>
    if s.listening then
      ({ s with connected := true, connections := s.connections + 1 }.connect, .nothing)
    else (s, .noListener)
  | .connectFailed error =>
    if s.listening then (s.inform (.connectFailed error), .nothing) else (s, .noListener)
  | .shutDown error => if s.listening then s.shutDown error else (s, .noListener)
  | .shutDownAfterHandler =>
    if s.listening then
      let (s, error) := s.takeHandlerResult
      s.shutDown error
    else (s, .noListener)
  | .set setting => ({ s with collaborators := s.collaborators.set setting }, .nothing)
  | .setStatus status =>
    s.stepStream fun stream =>
      match status with
      | some status =>
        ({ s with stream := some (Stream.next stream (.setStatus status)).1 }, .nothing)
      | none => (s, .invalidStatus)
  | .deliver callback => s.stepStream fun stream => s.deliver stream callback
  | .grant size => s.stepSocket fun id => (s.grant id size).settled
  | .close => s.stepSocket fun _ => (s.note .channelShutDown).settled
  | .run => s.runHandler
  | .arrive arrival =>
    if arrival = .data [] then (s, .nothing)
    else ({ s with arrivals := s.arrivals ++ [arrival] }.settled, .nothing)

/-- What a service replies to a dial. The built-in one has no runtime here. -/
def serviceReply (s : Session) (service : Option Service) (dial : Handshake.Dial) :
    Except Error Unit :=
  if service = some .scripted then
    match s.collaborators.serviceError with
    | some error => .error error
    | none => .ok ()
  else Connection.accept false dial.host

def adopt (s : Session) (opening : Handshake.Opening) : Session × Result :=
  match opening.attempt with
  | .error error => (s, .failed error)
  | .ok attempt => ({ s with attempt := some attempt, listening := true }, .nothing)

def start (s : Session) (options : Options) : Session × Result :=
  let opening := Handshake.connect memory options (s.serviceReply options.service)
  let seen := if options.service = some .scripted then opening.dials.map Entry.dial else []
  { s with
    factory := options.handlerFactory.getD .framing
    log := s.log ++ seen }.adopt opening

def startReading (s : Session) (options : Handshake.HandlerOptions) : Session × Result :=
  let error :=
    if options.isServer then some Error.serverSide else s.collaborators.installError
  let s := { s with factory := .framing }.makeHandler options
  match error with
  | some error => (s, .failed error)
  | none => ({ s with given := some 0 }, .nothing)

end Session

structure View where
  result : Result
  events : List Entry
  closes : Nat
  stream : Option Stream.State
  window : Option Nat
  handler : Option (Option (Option Error))

namespace Session

def view (s : Session) (result : Result) : View :=
  { result
    events := s.log
    closes := s.closes
    stream := s.stream
    window := s.given.map s.windowOf
    handler := s.running.map (·.handler.result?) }

def play (s : Session) : List Step → List View
  | [] => []
  | step :: rest =>
    let (s, result) := { s with log := [] }.step step
    s.view result :: s.play rest

end Session

/-! ## The network of a rehearsal

The built-in service needs a network. The one that rehearsals have is isolated: nothing can listen
on it, and every dial finds it unreachable. What a rehearsal shows there is how an attempt is
refused before it dials and how a dial fails.
-/

structure Network where
  canListen : Bool
  dialFailure : IoKind
deriving DecidableEq

def isolated : Network := ⟨false, .networkUnreachable⟩

/-- A rehearsal that wants a server to listen needs a network on which something can. -/
def Network.admits (n : Network) (refuse : Bool) : Bool := refuse || n.canListen

/-- An attempt with the built-in service, and what it reported. An attempt that is refused never
gets to the network. For any other there is no report where a server is wanted and none can
listen. -/
def playAttempt (n : Network) (refuse : Bool) (s : Session) (options : Options) : Option View :=
  let opening := Handshake.connect memory options fun dial => Connection.accept true dial.host
  let s := { s with factory := options.handlerFactory.getD .framing }
  match s.adopt opening with
  | (s, .nothing) =>
    if n.admits refuse then
      some ((s.inform (.connectFailed (.io n.dialFailure))).view .nothing)
    else none
  | (s, result) => some (s.view result)

inductive DialOutcome
  | refused (error : Error)
  | failed (error : Error)
deriving DecidableEq

def playDial (n : Network) (hasRuntime refuse : Bool) (host : List Char) : Option DialOutcome :=
  match Connection.accept hasRuntime host with
  | .error error => some (.refused error)
  | .ok () => if n.admits refuse then some (.failed (.io n.dialFailure)) else none

end WebSocketClient.Rehearsal
