import WebSocketClient.Error
import WebSocketClient.Http
import WebSocketClient.Stream
import WebSocketClient.Url.Percent

/-! # The connection task

One task drives a connection from the dial to its end. It exchanges the queued requests one at a
time, and after an upgrade runs the installed handler. It waits for commands, for the end of the
transport driver and for the end of its job, and takes whichever is there, in any order.

The user may request, close and install at any time, from inside callbacks and from elsewhere, so
the model stops at every callback and at every wait. The end of the task completes the streams that
got no answer, and only then reports the shutdown.

A call of the user is one step, and so is `tearDown`: no other thread comes in between the parts of
either. What a request finds out about the connection still holds when its command is sent.
-/
namespace WebSocketClient.Connection

/-- Whether a connection can be started is known at once. Whether the dial succeeds is reported
later. -/
def accept (hasRuntime : Bool) (host : List Char) : Except Error Unit :=
  if host = [] then .error .emptyHostName
  else if hasRuntime then .ok ()
  else .error .runtime

structure Request where
  method : Method
  path : Bytes
  headers : List Header

/-- What is wrong with a request, if anything. Its path has to be text, and it has to make a message
for the HTTP library, which `builds` stands for. -/
def Request.fault (builds : Method → List Char → List Header → Bool) (r : Request) :
    Option Error :=
  match Url.decodeUtf8? r.path with
  | none => some .pathNotText
  | some path => if builds r.method path r.headers then none else some .invalidRequest

abbrev HandlerId := Nat

inductive Command
  | request (stream : StreamId)
  | close (error : Option Error)
deriving DecidableEq

inductive Stage
  | requested
  | upgrading
  | readingBody
deriving DecidableEq

inductive Job
  | exchanging (stream : StreamId) (stage : Stage)
  | handling (handler : HandlerId)
deriving DecidableEq

inductive Delivery
  | status (status : Status)
  | callback (callback : Stream.Callback)
deriving DecidableEq

/-- What follows when a stream has been told everything. -/
inductive Resume
  | stage (stage : Stage)
  | exchanged (upgraded : Bool)
deriving DecidableEq

inductive Control
  | dialling
  | settingUp
  | waiting
  | delivering (stream : StreamId) (next : List Delivery) (following : Resume)
  | draining (error : Option Error) (next : List StreamId)
  | shuttingDown
  | ended
deriving DecidableEq

structure State where
  isOpen : Bool
  hasChannel : Bool
  slot : Option HandlerId
  commands : List Command
  receiving : Bool
  queue : List StreamId
  /-- The request sender is back from its last exchange. -/
  idle : Bool
  job : Option Job
  driverEnd : Option (Option Error)
  upgraded : Bool
  control : Control
deriving DecidableEq

def initial : State :=
  { isOpen := false
    hasChannel := false
    slot := none
    commands := []
    receiving := false
    queue := []
    idle := true
    job := none
    driverEnd := none
    upgraded := false
    control := .dialling }

inductive Event
  /-- The user queues a request, which can be expressed unless a fault says otherwise. -/
  | request (stream : StreamId) (fault : Option Error)
  /-- The user closes the connection or shuts its channel down. -/
  | close (error : Option Error)
  | install (handler : HandlerId)
  | dialFailed (error : Error)
  | dialled
  | returned
  | receive
  | driverEnded (error : Option Error)
  | responded (status : Status) (headers : List Header) (hasBody : Bool)
  | bodyArrived (data : Bytes)
  | exchangeFailed (error : Error)
  | exchangeEnded
  | handlerEnded (error : Option Error)
deriving DecidableEq

inductive Effect
  | accepted (stream : StreamId)
  | refused (stream : StreamId) (error : Error)
  | installed (handler : HandlerId)
  | notInstalled (handler : HandlerId) (error : Error)
  | setup (error : Option Error)
  | exchange (stream : StreamId)
  | status (stream : StreamId) (status : Status)
  | callback (stream : StreamId) (callback : Stream.Callback)
  | run (handler : HandlerId)
  | shutdown (error : Option Error)
deriving DecidableEq

def inFlight (s : State) : List StreamId :=
  match s.job with
  | some (.exchanging stream _) => [stream]
  | _ => []

def tearDown (s : State) (error : Option Error) : State × List Effect :=
  ({ s with
      isOpen := false
      slot := none
      commands := []
      receiving := false
      control := .shuttingDown },
    [.shutdown error])

def drain (s : State) (error : Option Error) : List StreamId → State × List Effect
  | [] => tearDown s error
  | stream :: rest =>
    ({ s with control := .draining error rest },
      [.callback stream (.complete (some .connectionClosed))])

/-- Leaves the loop. The job is dropped, and what it was for counts as unanswered. -/
def leave (s : State) (error : Option Error) : State × List Effect :=
  drain { s with job := none, queue := [] } error (inFlight s ++ s.queue)

/-- The top of the loop: with nothing to do, the end of the driver is the end of the task, and a
queued request is started if the sender is there. -/
def proceed (s : State) : State × List Effect :=
  if s.job.isNone ∧ s.upgraded = false then
    match s.driverEnd with
    | some error => leave s error
    | none =>
      match s.queue with
      | stream :: rest =>
        if s.idle then
          ({ s with
              queue := rest
              idle := false
              job := some (.exchanging stream .requested)
              control := .waiting }, [.exchange stream])
        else ({ s with control := .waiting }, [])
      | [] => ({ s with control := .waiting }, [])
  else ({ s with control := .waiting }, [])

/-- Goes on when a stream has been told everything. After an upgrade the installed handler leaves
its slot to run. -/
def resume (s : State) (stream : StreamId) : Resume → State × List Effect
  | .stage stage => ({ s with job := some (.exchanging stream stage), control := .waiting }, [])
  | .exchanged false => proceed { s with job := none, idle := true }
  | .exchanged true =>
    match s.slot with
    | some handler =>
      let (after, effects) :=
        proceed { s with job := some (.handling handler), upgraded := true, slot := none }
      (after, .run handler :: effects)
    | none => proceed { s with job := none, upgraded := true }

/-- Takes the steps of a delivery up to and with the first callback. -/
def deliver (s : State) (stream : StreamId) (following : Resume) :
    List Delivery → State × List Effect
  | [] => resume s stream following
  | .status status :: rest =>
    let (after, effects) := deliver s stream following rest
    (after, .status stream status :: effects)
  | .callback callback :: rest =>
    ({ s with control := .delivering stream rest following }, [.callback stream callback])

def onUser (s : State) : Event → State × List Effect
  | .request stream fault =>
    if s.isOpen = false then (s, [.refused stream .notConnected])
    else
      match fault with
      | some error => (s, [.refused stream error])
      | none =>
        if s.receiving then
          ({ s with commands := s.commands ++ [.request stream] }, [.accepted stream])
        else (s, [.refused stream .notConnected])
  | .close error =>
    if s.isOpen then
      ({ s with
          isOpen := false
          commands := if s.receiving then s.commands ++ [.close error] else s.commands }, [])
    else (s, [])
  | .install handler =>
    if s.isOpen = false then (s, [.notInstalled handler .shuttingDown])
    else if s.slot.isSome then (s, [.notInstalled handler .alreadyInstalled])
    else ({ s with slot := some handler }, [.installed handler])
  | _ => (s, [])

def onReceive (s : State) : State × List Effect :=
  match s.commands with
  | .request stream :: rest => proceed { s with commands := rest, queue := s.queue ++ [stream] }
  | .close error :: rest => leave { s with commands := rest } error
  | [] => (s, [])

/-- What a response head brings. The status is known before the headers are delivered. -/
def head (status : Status) (headers : List Header) (hasBody : Bool) : List Delivery :=
  [.callback .requestEnd, .status status, .callback (.headers headers),
    .callback (.blockDone hasBody)]

def onJob (s : State) (job : Job) : Event → State × List Effect
  | .responded status headers hasBody =>
    match job with
    | .exchanging stream .requested =>
      let stage := if status = .switchingProtocols then Stage.upgrading else .readingBody
      deliver s stream (.stage stage) (head status headers hasBody)
    | _ => (s, [])
  | .bodyArrived data =>
    match job with
    | .exchanging stream .readingBody =>
      deliver s stream (.stage .readingBody) [.callback (.body data)]
    | _ => (s, [])
  | .exchangeFailed error =>
    match job with
    | .exchanging stream _ =>
      deliver s stream (.exchanged false) [.callback (.complete (some error))]
    | _ => (s, [])
  | .exchangeEnded =>
    match job with
    | .exchanging stream .readingBody =>
      deliver s stream (.exchanged false) [.callback (.complete none)]
    | .exchanging stream .upgrading =>
      deliver { s with hasChannel := true } stream (.exchanged true) [.callback (.complete none)]
    | _ => (s, [])
  | .handlerEnded error =>
    match job with
    | .handling _ => leave { s with job := none } error
    | _ => (s, [])
  | _ => (s, [])

def onReturned (s : State) : State × List Effect :=
  match s.control with
  | .settingUp => proceed s
  | .delivering stream steps following => deliver s stream following steps
  | .draining error streams => drain s error streams
  | .shuttingDown => ({ s with control := .ended }, [])
  | _ => (s, [])

/-- The state after an event and what the event brings about, in order. An event that cannot happen
where the task stands changes nothing. -/
def next (s : State) (e : Event) : State × List Effect :=
  match e with
  | .request .. | .close _ | .install _ => onUser s e
  | .returned => onReturned s
  | .dialFailed error =>
    if s.control = .dialling then ({ s with control := .ended }, [.setup (some error)]) else (s, [])
  | .dialled =>
    if s.control = .dialling then
      ({ s with isOpen := true, receiving := true, control := .settingUp }, [.setup none])
    else (s, [])
  | .receive => if s.control = .waiting then onReceive s else (s, [])
  | .driverEnded error =>
    if s.control = .waiting ∧ s.driverEnd = none then proceed { s with driverEnd := some error }
    else (s, [])
  | .responded .. | .bodyArrived _ | .exchangeFailed _ | .exchangeEnded | .handlerEnded _ =>
    match s.control, s.job with
    | .waiting, some job => onJob s job e
    | _, _ => (s, [])

def run (s : State) (events : List Event) : State :=
  events.foldl (fun s e => (next s e).1) s

def effects (s : State) : List Event → List Effect
  | [] => []
  | e :: rest => (next s e).2 ++ effects (next s e).1 rest

inductive Reachable : State → Prop
  | initial : Reachable initial
  | next {s : State} (h : Reachable s) (e : Event) : Reachable (next s e).1

end WebSocketClient.Connection
