import WebSocketClient.Bytes

/-! # HTTP messages

Names and values of headers are raw octets: what arrives on the wire need not be text. A name is
compared without regard to ASCII case, and a lookup answers with the first header of that name. A
method is any token: one or more visible ASCII characters without the separators. A status is a
three-digit code, and the upgrade succeeds on exactly one of them.
-/
namespace WebSocketClient

structure Header where
  name : Bytes
  value : Bytes
deriving DecidableEq

namespace Header

def hasName (h : Header) (name : Bytes) : Bool := Bytes.sameIgnoringCase h.name name

def ofStrings (name value : String) : Header := ⟨Bytes.ofString name, Bytes.ofString value⟩

def size (h : Header) : Nat := h.name.length + h.value.length

def lookup (headers : List Header) (name : Bytes) : Option Bytes :=
  (headers.find? (·.hasName name)).map (·.value)

end Header

structure Method where
  token : String
deriving DecidableEq

namespace Method

def isTokenChar (c : Char) : Bool :=
  c.isAlphanum || "!#$%&'*+-.^_`|~".toList.contains c

def ofString? (text : String) : Option Method :=
  if text.toList ≠ [] ∧ text.toList.all isTokenChar then some ⟨text⟩ else none

def get : Method := ⟨"GET"⟩

end Method

structure Status where
  code : Nat
  three_digits : 100 ≤ code ∧ code < 1000
deriving DecidableEq

namespace Status

def ofNat? (code : Nat) : Option Status :=
  if h : 100 ≤ code ∧ code < 1000 then some ⟨code, h⟩ else none

def switchingProtocols : Status := ⟨101, by decide⟩

end Status

structure Response where
  status : Option Status
  headers : List Header
deriving DecidableEq

namespace Response

def none : Response := ⟨Option.none, []⟩

def header (r : Response) (name : Bytes) : Option Bytes := Header.lookup r.headers name

end Response

end WebSocketClient
