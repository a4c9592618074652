import WebSocketClient.Handshake.Request
import WebSocketClient.Proofs.Url.AddressText

/-! # The host in its two forms

A host has a form to dial and a form for the `Host` header. They agree: a name and an IPv4 address
are the same in both, and the two texts of an IPv6 address stand for that one address. -/
namespace WebSocketClient.Url

namespace Ipv6

section Printing

theorem hexValue_hexSmall :
    ∀ n < 16, hexValue? (hexSmall n) = some n ∧ isHex (hexSmall n) = true := by
  decide

def spelled (start : Nat) (digits : List Nat) : Nat :=
  digits.foldl (fun value digit => value * 16 + digit) start

theorem readNumber_spelled {digits : List Nat} (small : ∀ n ∈ digits, n < 16) :
    Ipv4.readNumber 16 (digits.map hexSmall) = some (spelled 0 digits) := by
  unfold Ipv4.readNumber spelled
  generalize 0 = start
  induction digits generalizing start with
  | nil => rfl
  | cons n digits ih =>
    have below := small n List.mem_cons_self
    rw [List.map_cons, List.foldl_cons, (hexValue_hexSmall n below).1]
    dsimp only
    rw [if_pos below, ih fun m mem => small m (List.mem_cons_of_mem n mem)]
    rfl

/-- Leading zeros count for nothing. -/
theorem spelled_dropWhile (digits more : List Nat) :
    spelled 0 (digits.dropWhile (· == 0) ++ more) = spelled 0 (digits ++ more) := by
  induction digits with
  | nil => rfl
  | cons n digits ih =>
    by_cases zero : n = 0
    · subst zero
      exact ih
    · simp [zero]

theorem hexPiece_pieceText (piece : UInt16) : HexPiece (pieceText piece) piece := by
  have below := piece.toNat_lt
  let high := [piece.toNat / 4096, piece.toNat / 256 % 16, piece.toNat / 16 % 16]
  have text : pieceText piece =
      (high.dropWhile (· == 0) ++ [piece.toNat % 16]).map hexSmall := rfl
  have few : (high.dropWhile (· == 0)).length ≤ 3 := List.length_dropWhile_le _ high
  have small : ∀ n ∈ high.dropWhile (· == 0) ++ [piece.toNat % 16], n < 16 := by
    intro n mem
    have listed : n ∈ high ++ [piece.toNat % 16] := by
      rcases List.mem_append.mp mem with front | last
      · exact List.mem_append_left _ ((List.dropWhile_sublist _).subset front)
      · exact List.mem_append_right _ last
    simp only [high, List.cons_append, List.nil_append, List.mem_cons, List.not_mem_nil,
      or_false] at listed
    omega
  rw [text]
  refine ⟨by simp, ?_, ?_, ?_⟩
  · rw [List.length_map, List.length_append, List.length_singleton]
    omega
  · intro c mem
    obtain ⟨n, digit, rfl⟩ := List.mem_map.mp mem
    exact (hexValue_hexSmall n (small n digit)).2
  · rw [readNumber_spelled small, spelled_dropWhile]
    congr 1
    simp only [spelled, high, List.cons_append, List.nil_append, List.foldl_cons, List.foldl_nil]
    omega

theorem spells_join {pieces : List UInt16} (some : pieces ≠ []) (dotted : Bool) :
    Spells dotted (join pieces) pieces := by
  induction pieces with
  | nil => exact absurd rfl some
  | cons piece pieces ih =>
    have hex := hexPiece_pieceText piece
    cases pieces with
    | nil => simpa [join] using Spells.last hex
    | cons next pieces =>
      have more := ih (List.cons_ne_nil next pieces)
      simpa [join] using Spells.cons hex more

theorem side_join (pieces : List UInt16) (dotted : Bool) : Side dotted (join pieces) pieces := by
  cases pieces with
  | nil => exact .nothing
  | cons piece pieces => exact .pieces (spells_join (List.cons_ne_nil piece pieces) dotted)

theorem zeros_append_drop (pieces : List UInt16) :
    pieces = List.replicate (pieces.takeWhile (· == 0)).length 0 ++
      pieces.drop (pieces.takeWhile (· == 0)).length := by
  have zeros : pieces.takeWhile (· == 0) =
      List.replicate (pieces.takeWhile (· == 0)).length 0 := by
    refine List.eq_replicate_of_mem fun piece mem => ?_
    simpa using List.mem_takeWhile_imp mem
  have front := List.prefix_iff_eq_take.mp (List.takeWhile_prefix (l := pieces) (· == 0))
  have split := List.take_append_drop (pieces.takeWhile (· == 0)).length pieces
  rw [← front] at split
  exact split.symm.trans
    (congrArg (fun zeros => zeros ++ pieces.drop (pieces.takeWhile (· == 0)).length) zeros)

/-- What is left out is a run of zeros. -/
theorem zeroRun_spec (pieces : List UInt16) :
    pieces = pieces.take (zeroRun pieces).1 ++ List.replicate (zeroRun pieces).2 0 ++
      pieces.drop ((zeroRun pieces).1 + (zeroRun pieces).2) := by
  induction pieces with
  | nil => rfl
  | cons piece rest ih =>
    rw [zeroRun]
    dsimp only
    split
    · simpa using zeros_append_drop (piece :: rest)
    · have shifted : (zeroRun rest).1 + 1 + (zeroRun rest).2 =
          (zeroRun rest).1 + (zeroRun rest).2 + 1 := by omega
      rw [shifted, List.take_succ_cons, List.drop_succ_cons, List.cons_append, List.cons_append,
        ← ih]

theorem denotes_text (a : Ipv6) : Denotes a.text a := by
  unfold text
  dsimp only
  split
  · refine .whole (spells_join ?_ true)
    intro none
    have eight := a.eight
    rw [none] at eight
    cases eight
  · rename_i long
    rw [List.append_assoc]
    exact .gap (side_join _ false) (side_join _ true) (by omega) (zeroRun_spec a.pieces)

/-- The last two pieces are those of the IPv4 address that is mapped. -/
theorem piecesOf_mapped (high low : UInt16) :
    piecesOf ⟨UInt32.ofNat (high.toNat * 65536 + low.toNat)⟩ = [high, low] := by
  have belowHigh := high.toNat_lt
  have belowLow := low.toNat_lt
  have value : (UInt32.ofNat (high.toNat * 65536 + low.toNat)).toNat =
      high.toNat * 65536 + low.toNat := by
    rw [UInt32.toNat_ofNat']
    exact Nat.mod_eq_of_lt (by omega)
  have first : (high.toNat * 65536 + low.toNat) / 0x10000 = high.toNat := by omega
  have second : (high.toNat * 65536 + low.toNat) % 0x10000 = low.toNat := by omega
  simp only [piecesOf, value, first, second, UInt16.ofNat_toNat]

theorem denotes_dialText (a : Ipv6) : Denotes a.dialText a := by
  unfold dialText
  split
  · rename_i v4 mapped
    have ones : HexPiece ['f', 'f', 'f', 'f'] 0xffff :=
      ⟨by decide, by decide, List.all_eq_true.mp (by decide), by decide⟩
    unfold mapped? at mapped
    split at mapped
    · rename_i high low pieces
      cases mapped
      have ending := Spells.ipv4 ⟨UInt32.ofNat (high.toNat * 65536 + low.toNat)⟩
      rw [piecesOf_mapped] at ending
      exact .gap .nothing (.pieces (.cons ones ending)) (show 0 < 5 by decide) pieces
    · cases mapped
  · exact denotes_text a

end Printing

def IsAddressChar (c : Char) : Prop := isHex c = true ∨ c = ':' ∨ c = '.'

section Characters

variable {text : List Char} {pieces : List UInt16}

theorem characters_ipv4 (a : Ipv4) : ∀ c ∈ a.text, IsAddressChar c := by
  have digits {n : Nat} (octet : n ∈ a.octets) {c : Char} (digit : c ∈ n.repr.toList) :
      IsAddressChar c :=
    .inl (List.all_eq_true.mp (readOctet_repr n (octet_lt octet)).2.2.2 c digit)
  have between {numbers : List Nat} (octets : ∀ n ∈ numbers, n ∈ a.octets) :
      ∀ c ∈ ['.'].intercalate (numbers.map fun n => n.repr.toList), IsAddressChar c := by
    induction numbers with
    | nil => simp [List.intercalate]
    | cons n numbers ih =>
      have first := octets n List.mem_cons_self
      have rest := ih fun m mem => octets m (List.mem_cons_of_mem n mem)
      intro c mem
      cases numbers with
      | nil => exact digits first (by simpa [List.intercalate] using mem)
      | cons m numbers =>
        simp only [List.map_cons, List.intercalate, List.intersperse_cons_cons, List.flatten_cons,
          List.mem_append, List.mem_singleton] at mem rest
        rcases mem with digit | point | later
        · exact digits first digit
        · exact .inr (.inr point)
        · exact rest c later
  rw [text_eq]
  exact between fun n mem => mem

theorem Spells.characters {dotted : Bool} (h : Spells dotted text pieces) :
    ∀ c ∈ text, IsAddressChar c := by
  induction h with
  | last hex => exact fun c mem => .inl (hex.digits c mem)
  | ipv4 a => exact characters_ipv4 a
  | cons hex more ih =>
    intro c mem
    rcases List.mem_append.mp mem with digit | rest
    · exact .inl (hex.digits c digit)
    · rcases List.mem_cons.mp rest with rfl | rest
      · exact .inr (.inl rfl)
      · exact ih c rest

theorem Side.characters {dotted : Bool} (h : Side dotted text pieces) :
    ∀ c ∈ text, IsAddressChar c := by
  cases h with
  | nothing => exact fun c none => absurd none List.not_mem_nil
  | pieces spells => exact spells.characters

theorem Denotes.characters {a : Ipv6} (h : Denotes text a) : ∀ c ∈ text, IsAddressChar c := by
  cases h with
  | whole spells => exact spells.characters
  | gap before after _ _ =>
    intro c mem
    simp only [List.mem_append, List.mem_cons] at mem
    rcases mem with front | colon | colon | back
    · exact before.characters c front
    · exact .inr (.inl colon)
    · exact .inr (.inl colon)
    · exact after.characters c back

/-- No text of an address has brackets of its own. -/
theorem Denotes.not_mem {a : Ipv6} (h : Denotes text a) : '[' ∉ text ∧ ']' ∉ text := by
  have none : ¬ IsAddressChar '[' ∧ ¬ IsAddressChar ']' := by
    unfold IsAddressChar
    decide
  exact ⟨fun mem => none.1 (h.characters _ mem), fun mem => none.2 (h.characters _ mem)⟩

end Characters

end Ipv6

/-- How the host to dial and the host in the text of a URL agree. -/
inductive Host.Agree : Host → (dialled written : List Char) → Prop
  | domain (name : List Char) : Agree (.domain name) name name
  | ipv4 (a : Ipv4) : Agree (.ipv4 a) a.text a.text
  | ipv6 {a : Ipv6} {dialled inner : List Char} (plain : '[' ∉ dialled ∧ ']' ∉ dialled)
      (dial : Ipv6.Denotes dialled a ∧ Ipv6.parse? dialled = some a)
      (text : Ipv6.Denotes inner a ∧ Ipv6.parse? inner = some a) :
      Agree (.ipv6 a) dialled ('[' :: inner ++ [']'])

theorem Host.agree (host : Host) : host.Agree host.dialName host.text := by
  cases host with
  | domain name => exact .domain name
  | ipv4 a => exact .ipv4 a
  | ipv6 a =>
    have dial := Ipv6.denotes_dialText a
    have text := Ipv6.denotes_text a
    exact .ipv6 dial.not_mem ⟨dial, dial.parse?_eq⟩ ⟨text, text.parse?_eq⟩

def withPort (host : List Char) : Option Nat → List Char
  | none => host
  | some port => host ++ ':' :: port.repr.toList

/-- What the headers of a request say of the host that is dialled: one `Host` header, with what
follows the user in the authority of the URL. -/
structure Announced (u : Url) (headers : List Header) (host : Host)
    (dialled written : List Char) : Prop where
  found : u.host? = some host
  dials : u.hostName? = some dialled
  agree : host.Agree dialled written
  header : headers.filter (·.hasName (Bytes.ofString "host")) =
    [⟨Bytes.ofString "host", Bytes.ofChars (withPort written u.port?)⟩]
  authority : ∃ authority, u.authority = some authority ∧
    authority.text = authority.userinfo ++ withPort written u.port?

theorem hostHeader_eq (u : Url) (host : Host) :
    u.hostHeader host = withPort host.text u.port? := by
  unfold hostHeader withPort
  cases u.port? <;> simp

theorem authority_text {u : Url} {host : Host} (found : u.host? = some host) :
    ∃ authority, u.authority = some authority ∧
      authority.text = authority.userinfo ++ withPort host.text u.port? := by
  obtain ⟨authority, same, host⟩ := Option.bind_eq_some_iff.mp found
  refine ⟨authority, same, ?_⟩
  have port : u.port? = authority.port := by rw [port?, same]; rfl
  rw [Authority.text, host, port]
  cases authority.port <;> simp [withPort]

/-- The host that is dialled and the `Host` header agree. -/
theorem host_header_agrees (u : Url) (key : Handshake.Key) :
    (u.hostName?.isSome ↔ ∃ headers, Handshake.requestHeaders key u = .ok headers) ∧
    (u.hostName? = none → Handshake.requestHeaders key u = .error .noHost) ∧
    ∀ headers, Handshake.requestHeaders key u = .ok headers →
      ∃ host dialled written, Announced u headers host dialled written := by
  cases found : u.host? with
  | none =>
    have none : u.hostName? = none := by rw [hostName?, found]; rfl
    have refused : Handshake.requestHeaders key u = .error .noHost := by
      rw [Handshake.requestHeaders, found]
    rw [none, refused]
    exact ⟨⟨nofun, nofun⟩, fun _ => rfl, nofun⟩
  | some host =>
    have dials : u.hostName? = some host.dialName := by rw [hostName?, found]; rfl
    have named := hostHeader_eq u host
    rw [dials, Handshake.requestHeaders, found]
    refine ⟨⟨fun _ => ⟨_, rfl⟩, fun _ => rfl⟩, nofun, ?_⟩
    rintro _ ⟨⟩
    refine ⟨host, host.dialName, host.text, found, dials, host.agree, ?_, authority_text found⟩
    rw [named]
    rfl

/-- A mapped IPv4 address is dialled in dotted decimal and announced in hexadecimal. -/
theorem mapped_address_announced :
    let address : Ipv6 := ⟨[0, 0, 0, 0, 0, 0xffff, 0x102, 0x304], rfl⟩
    let u : Url := ⟨"ws".toList, some ⟨[], [], some (.ipv6 address), some 8080⟩, ['/'], none, none⟩
    let key : Handshake.Key := ⟨List.replicate 16 0, rfl⟩
    u.hostName? = some "::ffff:1.2.3.4".toList ∧
      ∃ headers host dialled written, Handshake.requestHeaders key u = .ok headers ∧
        Announced u headers host dialled written ∧
        (headers.filter (·.hasName (Bytes.ofString "host"))).map (·.value) =
          [Bytes.ofString "[::ffff:102:304]:8080"] := by
  intro address u key
  obtain ⟨there, -, announced⟩ := host_header_agrees u key
  obtain ⟨headers, made⟩ := there.mp rfl
  obtain ⟨host, dialled, written, said⟩ := announced headers made
  refine ⟨by decide, headers, host, dialled, written, made, said, ?_⟩
  cases made
  decide

end WebSocketClient.Url
