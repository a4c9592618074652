import WebSocketClient.Frame.Basic
import WebSocketClient.Http

/-! # Failures

Every cause that a connection attempt or a running connection can report. `Error.message` is the
only place where their wording is written.
-/
namespace WebSocketClient.Url

inductive ParseError
  | emptyHost
  | invalidInternationalName
  | invalidPort
  | invalidIpv4
  | invalidIpv6
  | invalidDomainCharacter
  | relativeWithoutBase
deriving DecidableEq

namespace ParseError

def message : ParseError → String
  | emptyHost => "empty host"
  | invalidInternationalName => "invalid international domain name"
  | invalidPort => "invalid port number"
  | invalidIpv4 => "invalid IPv4 address"
  | invalidIpv6 => "invalid IPv6 address"
  | invalidDomainCharacter => "invalid domain character"
  | relativeWithoutBase => "relative URL without a base"

end ParseError

end WebSocketClient.Url

namespace WebSocketClient

inductive IoKind
  | notFound
  | permissionDenied
  | connectionRefused
  | connectionReset
  | hostUnreachable
  | networkUnreachable
  | connectionAborted
  | notConnected
  | addrInUse
  | addrNotAvailable
  | networkDown
  | brokenPipe
  | alreadyExists
  | wouldBlock
  | invalidInput
  | invalidData
  | timedOut
  | writeZero
  | interrupted
  | unsupported
  | unexpectedEof
  | outOfMemory
  | other
deriving DecidableEq

namespace IoKind

def name : IoKind → String
  | notFound => "NotFound"
  | permissionDenied => "PermissionDenied"
  | connectionRefused => "ConnectionRefused"
  | connectionReset => "ConnectionReset"
  | hostUnreachable => "HostUnreachable"
  | networkUnreachable => "NetworkUnreachable"
  | connectionAborted => "ConnectionAborted"
  | notConnected => "NotConnected"
  | addrInUse => "AddrInUse"
  | addrNotAvailable => "AddrNotAvailable"
  | networkDown => "NetworkDown"
  | brokenPipe => "BrokenPipe"
  | alreadyExists => "AlreadyExists"
  | wouldBlock => "WouldBlock"
  | invalidInput => "InvalidInput"
  | invalidData => "InvalidData"
  | timedOut => "TimedOut"
  | writeZero => "WriteZero"
  | interrupted => "Interrupted"
  | unsupported => "Unsupported"
  | unexpectedEof => "UnexpectedEof"
  | outOfMemory => "OutOfMemory"
  | other => "Other"

def all : List IoKind :=
  [notFound, permissionDenied, connectionRefused, connectionReset, hostUnreachable,
    networkUnreachable, connectionAborted, notConnected, addrInUse, addrNotAvailable,
    networkDown, brokenPipe, alreadyExists, wouldBlock, invalidInput, invalidData, timedOut,
    writeZero, interrupted, unsupported, unexpectedEof, outOfMemory, other]

def ofName? (text : String) : Option IoKind := all.find? (·.name == text)

end IoKind

inductive Error
  | invalidArgument (reason : String)
  | outOfSpace (requested remaining : Nat)
  | outOfMemory
  | notConnected
  | connectionClosed
  | upgradeFailure (status : Option Status)
  | handlerInstall (reason : String)
  | frameCallbackAborted
  | invalidDnsName
  | violation (cause : Frame.Violation)
  | unknown
  | url (cause : Url.ParseError)
  | io (kind : IoKind)
  | http
  | invalidRequest
  | tls
  | runtime
deriving DecidableEq

namespace Error

/-- The wording of a cause. The last four causes are worded by the layer they come from. -/
def message : Error → Option String
  | invalidArgument reason => some s!"Invalid argument: {reason}"
  | outOfSpace requested remaining =>
    some s!"Arena out of space: requested {requested} bytes, {remaining} remaining"
  | outOfMemory => some "Out of memory"
  | notConnected => some "Connection is not open"
  | connectionClosed => some "Connection is closed"
  | upgradeFailure (some status) =>
    let code := status.code
    some s!"Server refused websocket upgrade, status code {code}"
  | upgradeFailure none => some "Server refused websocket upgrade, status code unknown"
  | handlerInstall reason => some s!"Failed to install websocket handler: {reason}"
  | frameCallbackAborted => some "Frame callback aborted the connection"
  | invalidDnsName => some "Invalid DNS name"
  | violation cause => some cause.message
  | unknown => some "Unknown error"
  | url cause => some cause.message
  | io kind => some kind.name
  | http | invalidRequest | tls | runtime => none

def missingOptions : Error := invalidArgument "missing required websocket connection options"

def tlsRequired : Error := invalidArgument "secure scheme requires a TLS connector"

def partialFrameCallbacks : Error :=
  invalidArgument "either all frame-handling callbacks must be set, or none must be set"

def missingHeaders : Error :=
  invalidArgument "missing required headers for websocket client handshake"

def noHost : Error := invalidArgument "uri has no host"

def emptyHostName : Error := invalidArgument "empty host name"

def pathNotText : Error := invalidArgument "request path is not valid UTF-8"

def shuttingDown : Error := handlerInstall "channel is shutting down"

def alreadyInstalled : Error := handlerInstall "a handler is already installed"

def serverSide : Error := handlerInstall "server-side handlers are not supported"

/-- Two computations in a row succeed when both do. -/
theorem bind_eq_ok {ε α β : Type} {x : Except ε α} {f : α → Except ε β} {b : β} :
    (x >>= f) = .ok b ↔ ∃ a, x = .ok a ∧ f a = .ok b := by
  cases x <;> simp [bind, Except.bind]

end Error

end WebSocketClient
