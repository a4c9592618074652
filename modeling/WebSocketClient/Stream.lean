import WebSocketClient.Error
import WebSocketClient.Http

/-! # Streams

A stream is one request and its response, shared by handles and watched by one listener. The
listener sits in a slot. A callback takes it out for as long as it runs, so a call that a callback
makes on the same stream finds the slot empty and reaches nobody. The end of a callback puts the
listener back, except that completion takes it for good.

The events of this model are the calls made on a stream, by its driver or from inside a running
callback, and the ends of callbacks.
-/
namespace WebSocketClient

abbrev StreamId := Nat

namespace Stream

inductive Callback
  | headers (batch : List Header)
  | blockDone (hasBody : Bool)
  | body (data : Bytes)
  | requestEnd
  | complete (error : Option Error)
deriving DecidableEq

namespace Callback

def isComplete : Callback → Bool
  | complete _ => true
  | _ => false

end Callback

structure State where
  listening : Bool
  status : Option Status
  method : Option Method
  target : Option String
  /-- The callbacks that have not returned, the innermost first. -/
  running : List Callback
  handles : Nat
deriving DecidableEq

def initial : State := ⟨true, none, none, none, [], 1⟩

namespace State

/-- The stream looks complete whenever its slot is empty. -/
def isComplete (s : State) : Bool := !s.listening

/-- The stream is torn down when its last handle is dropped. -/
def isDestroyed (s : State) : Bool := s.handles == 0

end State

inductive Event
  | call (callback : Callback)
  | returned
  | setStatus (status : Status)
  | setRequest (method : Method) (target : String)
  | clone
  | drop
deriving DecidableEq

/-- Starts a callback with the listener taken out of its slot. -/
def invoke (s : State) (callback : Callback) : State :=
  { s with listening := false, running := callback :: s.running }

/-- Ends the innermost callback. A slot that completion emptied stays empty. -/
def finish (s : State) : State :=
  match s.running with
  | [] => s
  | callback :: outer =>
    { s with listening := s.listening || !callback.isComplete, running := outer }

def next (s : State) : Event → State × Option Callback
  | .call callback => if s.listening then (invoke s callback, some callback) else (s, none)
  | .returned => (finish s, none)
  | .setStatus status => ({ s with status := some status }, none)
  | .setRequest method target =>
    ({ s with method := s.method <|> some method, target := s.target <|> some target }, none)
  | .clone => ({ s with handles := s.handles + 1 }, none)
  | .drop => ({ s with handles := s.handles - 1 }, none)

def callbacks (s : State) : List Event → List Callback
  | [] => []
  | e :: rest => (next s e).2.toList ++ callbacks (next s e).1 rest

def run (s : State) (events : List Event) : State :=
  events.foldl (fun s e => (next s e).1) s

inductive Reachable : State → Prop
  | initial : Reachable initial
  | next {s : State} (h : Reachable s) (e : Event) : Reachable (next s e).1

end Stream

end WebSocketClient

/-! ## Listeners that call back

A scripted listener answers each callback with calls on the stream it was given. What a run logs
is, in order, every callback that was started and the answer to every call made from inside one.
-/

namespace WebSocketClient.Stream

/-- A call on a stream that a driver or a listener can make. What is no status and what is no
method cannot be set. -/
inductive Call
  | call (callback : Callback)
  | setStatus (status : Option Status)
  | setRequest (method : Option Method) (target : String)
  | isComplete
  | version
deriving DecidableEq

inductive Answer
  | nothing
  | truth (value : Bool)
  | version
  | invalidStatus
  | invalidMethod
deriving DecidableEq

inductive Entry
  | started (callback : Callback) (status : Option Status)
  | nested (answer : Answer)
deriving DecidableEq

abbrev Script := Callback → List Call

/-- What the caller of a callback is told. A completion says whether it reached the listener. -/
def State.answer (s : State) (callback : Callback) : Answer :=
  if callback.isComplete then .truth s.listening else .nothing

/-- Performs one call and, if it starts a callback, what the callback does before it returns.
`depth` bounds how far callbacks may start inside callbacks. -/
def perform (script : Script) : (depth : Nat) → State → Call → State × List Entry × Answer
  | _, s, .setStatus (some status) => ((next s (.setStatus status)).1, [], .nothing)
  | _, s, .setStatus none => (s, [], .invalidStatus)
  | _, s, .setRequest (some method) target =>
    ((next s (.setRequest method target)).1, [], .nothing)
  | _, s, .setRequest none _ => (s, [], .invalidMethod)
  | _, s, .isComplete => (s, [], .truth s.isComplete)
  | _, s, .version => (s, [], .version)
  | depth, s, .call callback =>
    let answer := s.answer callback
    match next s (.call callback), depth with
    | (during, none), _ => (during, [], answer)
    | (during, some callback), 0 =>
      ((next during .returned).1, [.started callback s.status], answer)
    | (during, some callback), depth + 1 =>
      let (after, log) := (script callback).foldl
        (fun (t, log) call =>
          let (t, inner, answer) := perform script depth t call
          (t, log ++ inner ++ [.nested answer]))
        (during, [.started callback s.status])
      ((next after .returned).1, log, answer)

end WebSocketClient.Stream
