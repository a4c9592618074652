import WebSocketClient.Error
import WebSocketClient.Frame.Decoder
import WebSocketClient.Handshake.Attempt
import WebSocketClient.Socket

/-! # The framing handler

The handler owns the octets of an upgraded connection. It decodes them into frames and tells the
frame callbacks. It stops after the server's close frame, or with the first failure, which it tells
the callbacks too if a frame was in progress.

The model stops wherever the handler hands over: while it waits for octets, while it waits for
window, and while a callback runs. Grants of window may come at any time.
-/
namespace WebSocketClient.Framing

inductive Call
  | event (event : Frame.Event)
  | interrupted (frame : Frame.Header) (error : Error)
deriving DecidableEq

inductive Phase
  | ready
  | reading
  | blocked
  | calling (event : Frame.Event)
  | interrupting (error : Error)
  | finished (error : Option Error)
deriving DecidableEq

structure Handler where
  decoder : Frame.Decoder
  buffer : Bytes
  window : Nat
  manual : Bool
  callbacks : Bool
  phase : Phase
deriving DecidableEq

inductive Input
  | turn
  /-- The transport answers a read. No octets mean the end of the stream. -/
  | read (data : Bytes)
  | readFailed (kind : IoKind)
  | grant (size : Nat)
  | answer (keep : Bool)
deriving DecidableEq

namespace Handler

def initial (window : Nat) (manual callbacks : Bool) : Handler :=
  ⟨Frame.Decoder.initial, [], window, manual, callbacks, .ready⟩

def limit (h : Handler) : Nat := if h.manual then h.window else maxSize

/-- Stops with a failure. A frame in progress is reported as interrupted first. -/
def fail (h : Handler) (error : Error) : Handler × List Call :=
  match h.decoder.current with
  | some frame =>
    if h.callbacks then ({ h with phase := .interrupting error }, [.interrupted frame error])
    else ({ h with phase := .finished (some error) }, [])
  | none => ({ h with phase := .finished (some error) }, [])

/-- Goes on after an event has been dealt with. The server's close frame is the last. -/
def proceed (h : Handler) (event : Frame.Event) : Handler :=
  { h with phase := if event.isCloseComplete then .finished none else .ready }

def charge (h : Handler) : Frame.Event → Handler
  | .payload frame data =>
    if h.manual && frame.opcode.isData then { h with window := h.window - data.length } else h
  | _ => h

def dispatch (h : Handler) (event : Frame.Event) : Handler × List Call :=
  let h := h.charge event
  if h.callbacks then ({ h with phase := .calling event }, [.event event])
  else (h.proceed event, [])

def turn (h : Handler) : Handler × List Call :=
  let decoded := (h.decoder.withLimit h.limit).decode h.buffer
  let after := { h with decoder := decoded.decoder, buffer := decoded.rest }
  match decoded.outcome with
  | .event event => after.dispatch event
  | .fault cause => after.fail (.violation cause)
  | .nothing =>
    if after.decoder.isAwaitingPayload && h.limit == 0 then ({ after with phase := .blocked }, [])
    else ({ after with phase := .reading }, [])

/-- The effect of a call to `increment` on the WebSocket. -/
def grant (h : Handler) (size : Nat) : Handler :=
  { h with window := saturatingAdd h.window size }

/-- The handler after an input, and the callbacks that it calls. An input that the handler is not
waiting for does nothing. -/
def next (h : Handler) : Input → Handler × List Call
  | .grant size => (h.grant size, [])
  | .turn =>
    match h.phase with
    | .ready => h.turn
    | .blocked => ({ h with phase := if h.window = 0 then .blocked else .ready }, [])
    | _ => (h, [])
  | .read data =>
    match h.phase with
    | .reading =>
      if data = [] then h.fail .connectionClosed
      else ({ h with buffer := h.buffer ++ data, phase := .ready }, [])
    | _ => (h, [])
  | .readFailed kind =>
    match h.phase with
    | .reading => h.fail (.io kind)
    | _ => (h, [])
  | .answer keep =>
    match h.phase with
    | .calling event => if keep then (h.proceed event, []) else h.fail .frameCallbackAborted
    | .interrupting error => ({ h with phase := .finished (some error) }, [])
    | _ => (h, [])

def run (h : Handler) (inputs : List Input) : Handler :=
  inputs.foldl (fun h i => (next h i).1) h

def calls (h : Handler) : List Input → List Call
  | [] => []
  | i :: rest => (next h i).2 ++ calls (next h i).1 rest

def result? (h : Handler) : Option (Option Error) :=
  match h.phase with
  | .finished error => some error
  | _ => none

end Handler

/-! ## Installing framing handlers

A framing handler is for clients only. It is made together with its WebSocket and installed on the
channel that was upgraded. A channel takes one handler at a time, and none once it shuts down.
-/

inductive InstallReply
  | installed
  | refused (error : Error)
deriving DecidableEq

/-- What the factory makes: the handler that was offered to the channel, if it got that far, and
the WebSocket if the channel took it. -/
structure Made where
  offered : Option Handler
  socket : Except Error Socket

def make (options : Handshake.HandlerOptions) (reply : InstallReply) : Made :=
  if options.isServer then ⟨none, .error .serverSide⟩
  else
    let handler := Handler.initial options.initialWindow options.manualWindow options.callbacks
    match reply with
    | .installed => ⟨some handler, .ok ⟨options.channel, options.initialWindow⟩⟩
    | .refused error => ⟨some handler, .error error⟩

end WebSocketClient.Framing
