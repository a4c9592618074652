import WebSocketClient.Handshake.Request

/-! # Connection options

Everything that one connection attempt is configured with. Options start out empty or made for a
URL, and are changed one setting at a time.
-/
namespace WebSocketClient

structure SocketOptions where
  /-- Milliseconds after which dialling is given up. -/
  connectTimeout : Option Nat
  noDelay : Bool
deriving DecidableEq

namespace SocketOptions

def initial : SocketOptions := ⟨none, true⟩

end SocketOptions

/-- Who opens connections: the built-in service, or one that plays a script. -/
inductive Service
  | native
  | scripted
deriving DecidableEq

inductive HandlerFactory
  | framing
  | scripted
deriving DecidableEq

structure SetupReaction where
  lookup : List Bytes
  grant : Option Nat
  closes : Bool
deriving DecidableEq

structure Options where
  service : Option Service
  handlerFactory : Option HandlerFactory
  socket : Option SocketOptions
  url : Option Url
  tls : Bool
  /-- Why no default TLS connector could be made. -/
  tlsError : Option Error
  headers : List Header
  initialWindow : Nat
  manualWindow : Bool
  onSetup : Option SetupReaction
  onShutdown : Bool
  onFrameBegin : Bool
  onFramePayload : Bool
  onFrameComplete : Bool
deriving DecidableEq

namespace Options

def empty : Options :=
  ⟨none, none, none, none, false, none, [], 0, false, none, false, false, false, false⟩

def bringsTls (url : Url) : Bool :=
  url.scheme == "wss".toList || url.scheme == "https".toList

/-- Options for a URL: the built-in service, TLS for a secure scheme, and the request headers. A
URL without a host gets no headers. -/
def ofUrl (url : Url) (key : Handshake.Key) : Options :=
  { empty with
    service := some .native
    socket := some SocketOptions.initial
    url := some url
    tls := bringsTls url
    headers :=
      match Handshake.requestHeaders key url with
      | .ok headers => headers
      | .error _ => [] }

inductive Setting
  | service
  | handlerFactory
  | socket
  | url
  | tls
  | onSetup
  | onShutdown
  | onFrameBegin
  | onFramePayload
  | onFrameComplete
deriving DecidableEq

inductive Change
  | startEmpty
  | startWith (url : Url) (key : Handshake.Key)
  | service (service : Service)
  | handlerFactory (factory : HandlerFactory)
  | socket (socket : SocketOptions)
  | url (url : Url)
  | tls
  | noTls
  | header (header : Header)
  /-- Replaces all headers. -/
  | headers (headers : List Header)
  | initialWindow (size : Nat)
  | manualWindow
  | onSetup (reaction : SetupReaction)
  | onShutdown
  | onFrameBegin
  | onFramePayload
  | onFrameComplete
  | unset (setting : Setting)
deriving DecidableEq

def unset (o : Options) : Setting → Options
  | .service => { o with service := none }
  | .handlerFactory => { o with handlerFactory := none }
  | .socket => { o with socket := none }
  | .url => { o with url := none }
  | .tls => { o with tls := false }
  | .onSetup => { o with onSetup := none }
  | .onShutdown => { o with onShutdown := false }
  | .onFrameBegin => { o with onFrameBegin := false }
  | .onFramePayload => { o with onFramePayload := false }
  | .onFrameComplete => { o with onFrameComplete := false }

def apply (o : Options) : Change → Options
  | .startEmpty => empty
  | .startWith url key => ofUrl url key
  | .service service => { o with service := some service }
  | .handlerFactory factory => { o with handlerFactory := some factory }
  | .socket socket => { o with socket := some socket }
  | .url url => { o with url := some url }
  | .tls => { o with tls := true, tlsError := none }
  | .noTls => { o with tls := false, tlsError := none }
  | .header header => { o with headers := o.headers ++ [header] }
  | .headers headers => { o with headers }
  | .initialWindow size => { o with initialWindow := size }
  | .manualWindow => { o with manualWindow := true }
  | .onSetup reaction => { o with onSetup := some reaction }
  | .onShutdown => { o with onShutdown := true }
  | .onFrameBegin => { o with onFrameBegin := true }
  | .onFramePayload => { o with onFramePayload := true }
  | .onFrameComplete => { o with onFrameComplete := true }
  | .unset setting => o.unset setting

def applyAll (o : Options) (changes : List Change) : Options := changes.foldl apply o

def hasAllFrameCallbacks (o : Options) : Bool :=
  o.onFrameBegin && o.onFramePayload && o.onFrameComplete

def hasAnyFrameCallback (o : Options) : Bool :=
  o.onFrameBegin || o.onFramePayload || o.onFrameComplete

end Options

/-! ## Options as text

The printed form of options: a list of named fields, text in double quotes, and times in the
largest unit that keeps their whole part above zero.
-/

def trimZeros (digits : List Char) : List Char := (digits.reverse.dropWhile (· == '0')).reverse

def renderMilliseconds (n : Nat) : String :=
  if n = 0 then "0ns"
  else if n < 1000 then toString n ++ "ms"
  else
    let thousandths := (1000 + n % 1000).repr.toList.drop 1
    let fraction := trimZeros thousandths
    let point := if fraction = [] then "" else "." ++ String.ofList fraction
    toString (n / 1000) ++ point ++ "s"

def renderQuoted (text : List Char) : String :=
  let escaped := text.flatMap fun c => if c == '"' || c == '\\' then ['\\', c] else [c]
  "\"" ++ String.ofList escaped ++ "\""

def renderOption (text : Option String) : String :=
  match text with
  | some t => "Some(" ++ t ++ ")"
  | none => "None"

def renderRecord (name : String) (fields : List (String × String)) (more : Bool) : String :=
  let written := fields.map fun (field, value) => field ++ ": " ++ value
  name ++ " \x7b " ++ ", ".intercalate written ++ (if more then ", .. \x7d" else " \x7d")

namespace SocketOptions

def render (s : SocketOptions) : String :=
  renderRecord "SocketOptions"
    [("connect_timeout", renderOption (s.connectTimeout.map renderMilliseconds)),
      ("no_delay", toString s.noDelay)] false

end SocketOptions

namespace Options

def render (o : Options) : String :=
  renderRecord "ClientConnectionOptions"
    [("uri", renderOption (o.url.map (renderQuoted ·.text))),
      ("socket_options", renderOption (o.socket.map SocketOptions.render)),
      ("tls", toString o.tls),
      ("headers", toString o.headers.length),
      ("initial_window_size", toString o.initialWindow),
      ("manual_window_management", toString o.manualWindow),
      ("tls_error", renderOption (o.tlsError.map fun _ => ".."))] true

end Options

end WebSocketClient
