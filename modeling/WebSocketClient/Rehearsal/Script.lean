import WebSocketClient.Framing.Handler
import WebSocketClient.Handshake.Step

/-! # Scripts

A rehearsal plays one connection attempt against collaborators that follow a script. The script
says how they fail, what the frame callbacks do, and what happens to the connection step by step.
-/
namespace WebSocketClient.Rehearsal

structure Collaborators where
  serviceError : Option Error
  requestError : Option Error
  factoryError : Option Error
  installError : Option Error
  noChannel : Bool
deriving DecidableEq

namespace Collaborators

def willing : Collaborators := ⟨none, none, none, none, false⟩

end Collaborators

inductive Setting
  | serviceError (error : Option Error)
  | requestError (error : Option Error)
  | factoryError (error : Option Error)
  | installError (error : Option Error)
  | noChannel (value : Bool)
deriving DecidableEq

def Collaborators.set (c : Collaborators) : Setting → Collaborators
  | .serviceError error => { c with serviceError := error }
  | .requestError error => { c with requestError := error }
  | .factoryError error => { c with factoryError := error }
  | .installError error => { c with installError := error }
  | .noChannel value => { c with noChannel := value }

inductive Action
  | abort
  | grant (size : Nat)
  | close
deriving DecidableEq

/-- What the frame callbacks do. Their calls are counted from zero, whichever of them is called. -/
structure Reactions where
  actions : List (Nat × Action)
  grants : List Nat
deriving DecidableEq

inductive Arrival
  | data (bytes : Bytes)
  | ended
  | failed (kind : IoKind)
deriving DecidableEq

inductive Step
  | connected
  | connectFailed (error : Error)
  | shutDown (error : Option Error)
  | shutDownAfterHandler
  | set (setting : Setting)
  | setStatus (status : Option Status)
  | deliver (callback : Stream.Callback)
  | grant (size : Nat)
  | close
  | run
  | arrive (arrival : Arrival)
deriving DecidableEq

inductive Entry
  | dial (dial : Handshake.Dial)
  | request (method : Method) (path : Bytes) (headers : List Header)
  | connectionClosed
  | newHandler (options : Handshake.HandlerOptions)
  | installed
  | channelShutDown
  | setup (error : Option Error) (window : Option Nat) (response : Response)
      (found : List (Option Bytes))
  /-- `same` says whether the WebSocket is the one that setup reported, if it reported one. -/
  | shutdown (error : Option Error) (same : Option Bool) (window : Nat)
  | frame (call : Framing.Call) (window : Nat)
deriving DecidableEq

/-- Payload calls that follow each other, shown as one with the window of the last. -/
def joinPayloads : List Entry → List Entry
  | [] => []
  | .frame (.event (.payload f data)) window :: rest =>
    match joinPayloads rest with
    | .frame (.event (.payload g more)) later :: rest' =>
      .frame (.event (.payload g (data ++ more))) later :: rest'
    | rest' => .frame (.event (.payload f data)) window :: rest'
  | e :: rest => e :: joinPayloads rest

inductive Result
  | nothing
  | truth (value : Bool)
  | failed (error : Error)
  | noListener
  | noConnection
  | noStream
  | noWebSocket
  | noHandler
  | invalidStatus
deriving DecidableEq

end WebSocketClient.Rehearsal
