import WebSocketClient.Error
import WebSocketClient.Http
import WebSocketClient.Url.Host

/-! # URLs

A URL by its parts, each already in the form in which it is written. An authority may lack a host.
A port that is the usual one of its scheme is not kept.
-/
namespace WebSocketClient

namespace Url

structure Authority where
  username : List Char
  password : List Char
  host : Option Host
  port : Option Nat
deriving DecidableEq

end Url

structure Url where
  scheme : List Char
  authority : Option Url.Authority
  path : List Char
  query : Option (List Char)
  fragment : Option (List Char)
deriving DecidableEq

namespace Url

def host? (u : Url) : Option Host := u.authority.bind (·.host)

def port? (u : Url) : Option Nat := u.authority.bind (·.port)

namespace Authority

def userinfo (a : Authority) : List Char :=
  let password := if a.password = [] then [] else ':' :: a.password
  if a.username = [] ∧ a.password = [] then [] else a.username ++ password ++ ['@']

def text (a : Authority) : List Char :=
  a.userinfo ++ (a.host.map Host.text).getD [] ++
    (a.port.map fun port => ':' :: port.repr.toList).getD []

end Authority

def introduced (sign : Char) (part : Option (List Char)) : List Char :=
  match part with
  | some text => sign :: text
  | none => []

/-- The URL as text. A path that would be read as an authority is kept apart by a dot segment. -/
def text (u : Url) : List Char :=
  let front :=
    match u.authority with
    | some a => ['/', '/'] ++ a.text
    | none => if ['/', '/'].isPrefixOf u.path then ['/', '.'] else []
  u.scheme ++ ':' :: front ++ u.path ++ introduced '?' u.query ++ introduced '#' u.fragment

end Url

end WebSocketClient

/-! ## What a URL asks a client to do

Which host and port to dial, whether to speak TLS, and what to write as the request target and the
`Host` header.
-/

namespace WebSocketClient.Url

/-- The request target: path and query, or the root if both are missing. -/
def target (u : Url) : List Char :=
  let text := u.path ++ introduced '?' u.query
  if text = [] then ['/'] else text

def hostName? (u : Url) : Option (List Char) := u.host?.map Host.dialName

def sameScheme (u : Url) (scheme : String) : Bool :=
  Bytes.sameIgnoringCase (Bytes.ofChars u.scheme) (Bytes.ofString scheme)

/-- The port to dial. One that the URL gives wins. -/
def dialPort (u : Url) (tls : Bool) : Nat :=
  match u.port? with
  | some port => port
  | none =>
    match [("http", 80), ("https", 443), ("ws", 80), ("wss", 443)].find? (u.sameScheme ·.1) with
    | some (_, port) => port
    | none => if tls then 443 else 80

def isSecure (u : Url) : Bool := u.sameScheme "wss" || u.sameScheme "https"

def hostHeader (u : Url) (host : Host) : List Char :=
  host.text ++ (u.port?.map fun port => ':' :: port.repr.toList).getD []

end WebSocketClient.Url
