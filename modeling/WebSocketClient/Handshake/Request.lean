import WebSocketClient.Bytes
import WebSocketClient.Url.Basic

/-! # Upgrade requests

The five headers that every upgrade request has to carry. The connection attempt itself never adds
a header. One of them holds a key, which is sixteen random octets in base 64: three octets make four
characters, and what is missing from the last three is made up by equal signs.
-/
namespace WebSocketClient.Handshake

structure Key where
  octets : Bytes
  sixteen : octets.length = 16
deriving DecidableEq

namespace Base64

def alphabet : Bytes :=
  Bytes.ofString "ABCDEFGHIJKLMNOPQRSTUVWXYZabcdefghijklmnopqrstuvwxyz0123456789+/"

def padding : UInt8 := 61

def digit (value : Nat) : UInt8 := (alphabet[value]?).getD padding

def encode : Bytes → Bytes
  | [] => []
  | [a] => [digit (a.toNat / 4), digit (a.toNat % 4 * 16), padding, padding]
  | [a, b] =>
    [digit (a.toNat / 4), digit (a.toNat % 4 * 16 + b.toNat / 16), digit (b.toNat % 16 * 4),
      padding]
  | a :: b :: c :: rest =>
    digit (a.toNat / 4) :: digit (a.toNat % 4 * 16 + b.toNat / 16) ::
      digit (b.toNat % 16 * 4 + c.toNat / 64) :: digit (c.toNat % 64) :: encode rest

def value? (octet : UInt8) : Option Nat := alphabet.findIdx? (· == octet)

/-- The octets that a text stands for. Only the text that encoding writes is read. -/
def decode : Bytes → Option Bytes
  | [] => some []
  | a :: b :: c :: d :: rest =>
    match value? a, value? b, value? c, value? d with
    | some a, some b, some c, some d =>
      let octets := [a * 4 + b / 16, b % 16 * 16 + c / 4, c % 4 * 64 + d].map UInt8.ofNat
      (decode rest).map (octets ++ ·)
    | some a, some b, some c', none =>
      if d = padding ∧ rest = [] ∧ c' % 4 = 0 then
        some ([a * 4 + b / 16, b % 16 * 16 + c' / 4].map UInt8.ofNat)
      else none
    | some a, some b, none, none =>
      if c = padding ∧ d = padding ∧ rest = [] ∧ b % 16 = 0 then
        some ([a * 4 + b / 16].map UInt8.ofNat)
      else none
    | _, _, _, _ => none
  | _ => none

end Base64

namespace Key

def text (k : Key) : Bytes := Base64.encode k.octets

def isText (text : Bytes) : Bool := (Base64.decode text).any (·.length == 16)

end Key

def requestHeaders (key : Key) (url : Url) : Except Error (List Header) :=
  match url.host? with
  | none => .error .noHost
  | some host =>
    .ok
      [⟨Bytes.ofString "host", Bytes.ofChars (url.hostHeader host)⟩,
        Header.ofStrings "upgrade" "websocket",
        Header.ofStrings "connection" "Upgrade",
        ⟨Bytes.ofString "sec-websocket-key", key.text⟩,
        Header.ofStrings "sec-websocket-version" "13"]

end WebSocketClient.Handshake
