import WebSocketClient.Bytes

/-! # Percent encoding

A character that may not stand as it is becomes the octets of its UTF-8 form, each written as a
percent sign and two capital hexadecimal digits. Which ASCII characters those are depends on the
part of the URL. A percent sign itself always stands.
-/
namespace WebSocketClient.Url

def hexCapital (value : Nat) : Char :=
  if value < 10 then Char.ofNat (48 + value) else Char.ofNat (55 + value)

def percentOctet (b : UInt8) : List Char :=
  ['%', hexCapital (b.toNat / 16), hexCapital (b.toNat % 16)]

/-- Control characters and everything outside ASCII, which never stand as they are. -/
def isControl (c : Char) : Bool := c.toNat < 0x20 || 0x7e < c.toNat

def inFragmentSet (c : Char) : Bool := isControl c || " \"<>`".toList.contains c

def inPathSet (c : Char) : Bool := inFragmentSet c || "#?\x7b\x7d".toList.contains c

def inQuerySet (c : Char) : Bool := isControl c || " \"#<>".toList.contains c

def inSpecialQuerySet (c : Char) : Bool := inQuerySet c || c == Char.ofNat 39

def inUserinfoSet (c : Char) : Bool := inPathSet c || "/:;=@[\\]^|".toList.contains c

def percentEncode (encodes : Char → Bool) (text : List Char) : List Char :=
  text.flatMap fun c =>
    if encodes c then (String.utf8EncodeChar c).flatMap percentOctet else [c]

def hexValue? (c : Char) : Option Nat :=
  if '0' ≤ c ∧ c ≤ '9' then some (c.toNat - 48)
  else if 'a' ≤ c ∧ c ≤ 'f' then some (c.toNat - 87)
  else if 'A' ≤ c ∧ c ≤ 'F' then some (c.toNat - 55)
  else none

def percentPair? (c : Char) : List Char → Option UInt8
  | high :: low :: _ =>
    match hexValue? high, hexValue? low with
    | some h, some l => if c = '%' then some (UInt8.ofNat (h * 16 + l)) else none
    | _, _ => none
  | _ => none

/-- The octets that a text stands for. A percent sign without two digits stands for itself. -/
def percentDecode : List Char → Bytes
  | [] => []
  | c :: rest =>
    match percentPair? c rest with
    | some octet => octet :: percentDecode (rest.drop 2)
    | none => String.utf8EncodeChar c ++ percentDecode rest
termination_by text => text.length

def decodeUtf8? (b : Bytes) : Option (List Char) :=
  (String.fromUTF8? ⟨b.toArray⟩).map String.toList

end WebSocketClient.Url
