import WebSocketClient.Handshake.Attempt

/-! # Starting an attempt

Options are checked before anything is opened, in a fixed order, and the first check that fails is
the answer. What passes is copied into an attempt together with the dial that begins it.
-/
namespace WebSocketClient.Handshake

/-- The flow-control window for the response. -/
def httpWindow : Nat := 1024

/-- Response headers reserved on top of the number of request headers. -/
def extraResponseHeaders : Nat := 10

/-- Octets reserved for one response header. -/
def responseHeaderSize : Nat := 64

def requestSize (path : Bytes) (headers : List Header) : Nat :=
  headers.foldl (fun size h => size + h.name.length + h.value.length) path.length

/-- Copies a path and headers into a store of exactly their size. -/
def storeRequest (m : Allocator) (path : Bytes) (headers : List Header) :
    Except Error (HeaderStore × ArenaRef) := do
  let arena ← Arena.fixed m (requestSize path headers)
  let store ← HeaderStore.withCapacity arena headers.length
  let written := store.write path
  let pathRef ← written.answer
  let pushed := written.store.pushAll headers
  pushed.answer
  return (pushed.store, pathRef)

/-- A store with room for the response that `count` request headers let expect. -/
def reserveResponse (m : Allocator) (count : Nat) : Except Error HeaderStore := do
  let expected := count + extraResponseHeaders
  let arena ← Arena.growable m (expected * responseHeaderSize)
  HeaderStore.withCapacity arena expected

def required? (o : Options) : Option (Service × SocketOptions × Url × SetupReaction) :=
  match o.service, o.socket, o.url, o.onSetup with
  | some service, some socket, some url, some onSetup => some (service, socket, url, onSetup)
  | _, _, _, _ => none

def start (m : Allocator) (o : Options) : Except Error (Attempt × Dial) :=
  match required? o with
  | none => .error .missingOptions
  | some (_, socket, url, onSetup) =>
    match o.tlsError with
    | some e => .error e
    | none =>
      if url.isSecure ∧ o.tls = false then .error .tlsRequired
      else if o.hasAnyFrameCallback ∧ o.hasAllFrameCallbacks = false then
        .error .partialFrameCallbacks
      else if o.headers = [] then .error .missingHeaders
      else
        match url.hostName? with
        | none => .error .noHost
        | some host => do
          let (request, requestPath) ← storeRequest m (Bytes.ofChars url.target) o.headers
          let response ← reserveResponse m o.headers.length
          let attempt : Attempt :=
            { phase := .awaitingConnection
              initialWindow := o.initialWindow
              manualWindow := o.manualWindow
              onSetup := some onSetup
              onShutdown := o.onShutdown
              frameCallbacks := o.hasAllFrameCallbacks
              request := request
              requestPath := requestPath
              response := response
              status := none
              failure := none
              socket := none
              connection := none
              stream := none }
          return (attempt, ⟨host, url.dialPort o.tls, socket, o.tls, httpWindow⟩)

/-- What connecting comes to: the dials that the service was asked for, and the attempt unless it
was refused. -/
structure Opening where
  dials : List Dial
  attempt : Except Error Attempt

def connect (m : Allocator) (o : Options) (service : Dial → Except Error Unit) : Opening :=
  match start m o with
  | .error e => ⟨[], .error e⟩
  | .ok (attempt, dial) => ⟨[dial], (service dial).map fun _ => attempt⟩

end WebSocketClient.Handshake
