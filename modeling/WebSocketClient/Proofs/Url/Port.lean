import WebSocketClient.Proofs.Url.Authority
import WebSocketClient.Proofs.Url.Target

/-! # The port that a URL is dialled at

A port that stands in the text wins over the one that goes with the scheme, save the usual port of
`ftp`: it is not kept when the text is read, and no port goes with that scheme. -/
namespace WebSocketClient.Url

def schemePort (scheme : List Char) (tls : Bool) : Nat :=
  if scheme = "http".toList ∨ scheme = "ws".toList then 80
  else if scheme = "https".toList ∨ scheme = "wss".toList then 443
  else if tls then 443 else 80

section Schemes

theorem octets_of_ascii {c : Char} (ascii : c.toNat < 128) :
    String.utf8EncodeChar c = [UInt8.ofNat c.toNat] := by
  unfold String.utf8EncodeChar
  rw [Char.toNat_val]
  exact if_pos (Nat.le_of_lt_succ ascii)

/-- Text in ASCII is read back from its octets. -/
theorem chars_of_octets {text : List Char} (ascii : ∀ c ∈ text, c.toNat < 128) :
    (Bytes.ofChars text).map (fun octet => Char.ofNat octet.toNat) = text := by
  induction text with
  | nil => rfl
  | cons c text ih =>
    have first := ascii c List.mem_cons_self
    have rest := ih fun d mem => ascii d (List.mem_cons_of_mem c mem)
    rw [Bytes.ofChars, List.flatMap_cons, octets_of_ascii first, List.map_append]
    change Char.ofNat (UInt8.ofNat c.toNat).toNat :: (Bytes.ofChars text).map _ = _
    rw [rest, UInt8.toNat_ofNat', Nat.mod_eq_of_lt (by omega), Char.ofNat_toNat]

/-- ASCII without capitals, as a scheme is once it has been read. -/
def IsSmall (text : List Char) : Prop := ∀ c ∈ text, c.toNat < 128 ∧ c.isUpper = false

instance (text : List Char) : Decidable (IsSmall text) := List.decidableBAll _ text

theorem lowerOctet_small :
    ∀ n < 128, (Char.ofNat n).isUpper = false → Bytes.lowerOctet (UInt8.ofNat n) = UInt8.ofNat n := by
  decide

theorem toLower_small :
    ∀ n < 128, (Char.ofNat n).toLower.toNat < 128 ∧ (Char.ofNat n).toLower.isUpper = false := by
  decide

theorem isSmall_toLower {text : List Char} (ascii : ∀ c ∈ text, c.toNat < 128) :
    IsSmall (text.map Char.toLower) := by
  intro c mem
  obtain ⟨d, within, rfl⟩ := List.mem_map.mp mem
  have small := toLower_small d.toNat (ascii d within)
  rwa [Char.ofNat_toNat] at small

theorem ascii_of_isSchemeChar {c : Char} (scheme : isSchemeChar c = true) : c.toNat < 128 := by
  have below {bound : Char} (small : bound.toNat < 128) (le : c.val ≤ bound.val) :
      c.toNat < 128 := Nat.lt_of_le_of_lt le small
  simp only [isSchemeChar, Bool.or_eq_true, beq_iff_eq] at scheme
  rcases scheme with ((alphanum | rfl) | rfl) | rfl
  · rcases Bool.or_eq_true_iff.mp alphanum with alpha | digit
    · rcases Bool.or_eq_true_iff.mp alpha with upper | lower
      · exact @below 'Z' (by decide) (of_decide_eq_true upper).2
      · exact @below 'z' (by decide) (of_decide_eq_true (Bool.and_eq_true_iff.mp lower).2)
    · exact @below '9' (by decide) (of_decide_eq_true (Bool.and_eq_true_iff.mp digit).2)
  all_goals decide

theorem lower_octets_small {text : List Char} (small : IsSmall text) :
    Bytes.lower (Bytes.ofChars text) = Bytes.ofChars text := by
  induction text with
  | nil => rfl
  | cons c text ih =>
    obtain ⟨ascii, noCapital⟩ := small c List.mem_cons_self
    have rest := ih fun d mem => small d (List.mem_cons_of_mem c mem)
    have octet := lowerOctet_small c.toNat ascii (by rwa [Char.ofNat_toNat])
    rw [Bytes.ofChars, List.flatMap_cons, octets_of_ascii ascii]
    change Bytes.lowerOctet _ :: Bytes.lower (Bytes.ofChars text) = _ :: Bytes.ofChars text
    rw [octet, rest]

theorem sameScheme_eq {u : Url} (name : String) (small : IsSmall u.scheme)
    (named : IsSmall name.toList) : u.sameScheme name = decide (u.scheme = name.toList) := by
  rw [Bool.eq_iff_iff, decide_eq_true_iff, sameScheme, Bytes.sameIgnoringCase, beq_iff_eq,
    Bytes.ofString, lower_octets_small small, lower_octets_small named]
  refine ⟨fun same => ?_, fun same => by rw [same]⟩
  rw [← chars_of_octets fun c mem => (small c mem).1, same,
    chars_of_octets fun c mem => (named c mem).1]

theorem dialPort_of_port {u : Url} {port : Nat} (given : u.port? = some port) (tls : Bool) :
    u.dialPort tls = port := by
  rw [dialPort, given]

theorem dialPort_of_none {u : Url} (none : u.port? = none) (small : IsSmall u.scheme)
    (tls : Bool) : u.dialPort tls = schemePort u.scheme tls := by
  have http := sameScheme_eq "http" small (by decide)
  have https := sameScheme_eq "https" small (by decide)
  have ws := sameScheme_eq "ws" small (by decide)
  have wss := sameScheme_eq "wss" small (by decide)
  rw [dialPort, none]
  simp only [List.find?_cons, List.find?_nil, http, https, ws, wss]
  unfold schemePort
  by_cases isHttp : u.scheme = "http".toList
  · simp [isHttp]
  · by_cases isHttps : u.scheme = "https".toList
    · simp [isHttps]
    · by_cases isWs : u.scheme = "ws".toList
      · simp [isWs]
      · by_cases isWss : u.scheme = "wss".toList
        · simp [isWss]
        · simp only [isHttp, isHttps, isWs, isWss, decide_false, or_self, if_false]

/-- The usual port of a scheme is the one that goes with it, save for `ftp`. -/
theorem usualPort_cases {scheme : List Char} {port : Nat} (usual : usualPort scheme = some port) :
    (scheme = "ftp".toList ∧ port = 21) ∨
      (scheme ≠ "ftp".toList ∧ ∀ tls, schemePort scheme tls = port) := by
  obtain ⟨row, found, rfl⟩ := Option.map_eq_some_iff.mp usual
  have named := List.find?_some found
  have listed := List.mem_of_find?_eq_some found
  rw [beq_iff_eq] at named
  subst named
  simp only [List.mem_cons, List.not_mem_nil, or_false] at listed
  rcases listed with rfl | rfl | rfl | rfl | rfl
  all_goals decide

end Schemes

def kindOf (scheme : List Char) : SchemeKind := SchemeKind.ofScheme (scheme.map Char.toLower)

/-- The scheme of a text, in the letters of the text. -/
structure SchemeAt (text scheme rest : List Char) : Prop where
  whole : text = scheme ++ ':' :: rest
  letters : ∀ c ∈ scheme, isSchemeChar c = true

/-- What stands between a scheme and an authority that may have a port. A file's URL has none: its
authority is a host alone. -/
def Slashes (kind : SchemeKind) (slashes : List Char) : Prop :=
  match kind with
  | .file => False
  | .web => ∀ c ∈ slashes, SchemeKind.web.separates c = true
  | .foreign => slashes = "//".toList

/-- The text gives a port: digits that follow a host, before the end of the authority. -/
inductive GivesPort (text : List Char) : Nat → Prop
  | at {scheme slashes authority tail userinfo host digits after : List Char}
    (scheme_at : SchemeAt text scheme (slashes ++ (authority ++ tail)))
    (slashed : Slashes (kindOf scheme) slashes)
    (ended : CutAt (endsAuthority (kindOf scheme)) (authority ++ tail) authority tail)
    (port_at : PortAt authority userinfo host digits after)
    (some : digits ≠ [])
    (decimal : digits.all Char.isDigit = true) :
    GivesPort text (Nat.ofDigitChars 10 digits 0)

section Reading

variable {kind : SchemeKind} {scheme text rest : List Char} {u : Url}

theorem SchemeAt.unique {other more : List Char} (h : SchemeAt text scheme rest)
    (h' : SchemeAt text other more) : scheme = other ∧ rest = more := by
  have cutAt {scheme rest : List Char} (h : SchemeAt text scheme rest) :
      CutAt (!isSchemeChar ·) text scheme (':' :: rest) :=
    ⟨h.whole, fun c mem => by simp [h.letters c mem], fun c first => by cases first; rfl⟩
  have same := (cutAt h).cut_eq.symm.trans (cutAt h').cut_eq
  simpa using same

/-- A text that is read has a scheme, and its kind says how the rest is read. -/
theorem parse_scheme (read : parse text = .ok u) :
    ∃ scheme rest, SchemeAt (Path.counted (trim text)) scheme rest ∧
      u.scheme = scheme.map Char.toLower ∧
      ((kindOf scheme = .file ∧ u.port? = none) ∨
        (kindOf scheme = .web ∧ parseWithAuthority .web u.scheme
          (rest.dropWhile SchemeKind.web.separates) = .ok u) ∨
        (kindOf scheme = .foreign ∧ parseForeign u.scheme rest = .ok u)) := by
  obtain ⟨small, rest, found, byKind⟩ := parse_cases read
  obtain ⟨scheme, whole, letters, rfl⟩ := splitScheme_cases found
  refine ⟨scheme, rest, ⟨whole, letters⟩, ?_⟩
  rcases byKind with ⟨file, read⟩ | ⟨web, read⟩ | ⟨foreign, read⟩
  · obtain ⟨host, start, path, tail, -, rfl⟩ := parseFile_cases read
    exact ⟨rfl, .inl ⟨file, rfl⟩⟩
  · obtain ⟨_, _, _, _, _, _, -, -, -, made⟩ := parseWithAuthority_cases read
    have same : u.scheme = scheme.map Char.toLower := by rw [made]; rfl
    exact ⟨same, .inr (.inl ⟨web, same ▸ read⟩)⟩
  · have same : u.scheme = scheme.map Char.toLower := by
      rcases parseForeign_cases read with ⟨_, -, read⟩ | ⟨-, _, _, _, -, -, made⟩
      · obtain ⟨_, _, _, _, _, _, -, -, -, made⟩ := parseWithAuthority_cases read
        rw [made]
        rfl
      · rw [made]
        rfl
    exact ⟨same, .inr (.inr ⟨foreign, same ▸ read⟩)⟩

/-- The port is read off the digits of the authority. -/
theorem parseWithAuthority_port (read : parseWithAuthority kind scheme text = .ok u) :
    ∃ authority tail, CutAt (endsAuthority kind) text authority tail ∧
      readPort scheme (portDigits authority) = .ok u.port? := by
  obtain ⟨authority, tail, _, _, _, _, ended, located, -, rfl⟩ := parseWithAuthority_cases read
  exact ⟨authority, tail, ended, parseAuthority_port located⟩

/-- Slashes before an authority that is not empty are passed over. -/
theorem dropWhile_slashes {slashes authority tail : List Char}
    (slashed : ∀ c ∈ slashes, SchemeKind.web.separates c = true) (some : authority ≠ [])
    (ended : CutAt (endsAuthority .web) (authority ++ tail) authority tail) :
    (slashes ++ (authority ++ tail)).dropWhile SchemeKind.web.separates = authority ++ tail := by
  obtain ⟨c, front, rfl⟩ := List.exists_cons_of_ne_nil some
  have first := ended.inside c List.mem_cons_self
  have stays : SchemeKind.web.separates c = false := (Bool.or_eq_false_iff.mp first).2
  rw [List.dropWhile_append_of_pos slashed, List.cons_append, List.dropWhile_cons_of_neg]
  simp [stays]

theorem PortAt.ne_nil {userinfo host digits after : List Char}
    (h : PortAt text userinfo host digits after) : text ≠ [] := by
  intro nothing
  have whole := h.located.whole
  simp [nothing] at whole

/-- A port in the text is kept unless it is the usual one of the scheme. -/
theorem port_of_givesPort {port : Nat} (read : parse text = .ok u)
    (given : GivesPort (Path.counted (trim text)) port) :
    u.port? = if usualPort u.scheme = some port then none else some port := by
  obtain ⟨scheme_at, slashed, ended, port_at, some, -⟩ := given
  rename_i scheme slashes authority tail userinfo host digits after
  obtain ⟨written, rest, scheme_at', -, byKind⟩ := parse_scheme read
  obtain ⟨rfl, rfl⟩ := scheme_at.unique scheme_at'
  have located : ∃ text, text = authority ++ tail ∧
      parseWithAuthority (kindOf scheme) u.scheme text = .ok u := by
    rcases byKind with ⟨file, -⟩ | ⟨web, read⟩ | ⟨foreign, read⟩
    · rw [file] at slashed
      cases slashed
    · rw [web] at slashed ended ⊢
      exact ⟨_, dropWhile_slashes slashed port_at.ne_nil ended, read⟩
    · rw [foreign] at slashed ⊢
      obtain rfl : slashes = "//".toList := slashed
      rcases parseForeign_cases read with ⟨text, same, read⟩ | ⟨other, -⟩
      · exact ⟨text, (List.cons.inj (List.cons.inj same).2).2.symm, read⟩
      · exact absurd rfl (other _)
  obtain ⟨_, rfl, read⟩ := located
  obtain ⟨front, back, ended', kept⟩ := parseWithAuthority_port read
  obtain ⟨rfl, -⟩ := ended.unique ended'
  rw [port_at.portDigits_eq] at kept
  exact ((readPort_eq_ok some).mp kept).2.2

theorem givesPort_of_digits {slashes authority tail : List Char}
    (scheme_at : SchemeAt text scheme (slashes ++ (authority ++ tail)))
    (slashed : Slashes (kindOf scheme) slashes)
    (ended : CutAt (endsAuthority (kindOf scheme)) (authority ++ tail) authority tail)
    (some : portDigits authority ≠ []) (decimal : (portDigits authority).all Char.isDigit = true) :
    GivesPort text (Nat.ofDigitChars 10 (portDigits authority) 0) := by
  obtain ⟨userinfo, host, after, port_at⟩ := exists_portAt some
  exact .at scheme_at slashed ended port_at some decimal

/-- A port that is kept stands in the text. -/
theorem givesPort_of_port {port : Nat} (read : parse text = .ok u) (kept : u.port? = some port) :
    GivesPort (Path.counted (trim text)) port := by
  obtain ⟨scheme, rest, scheme_at, -, byKind⟩ := parse_scheme read
  have located : ∃ slashes text, rest = slashes ++ text ∧ Slashes (kindOf scheme) slashes ∧
      parseWithAuthority (kindOf scheme) u.scheme text = .ok u := by
    rcases byKind with ⟨-, none⟩ | ⟨web, read⟩ | ⟨foreign, read⟩
    · rw [none] at kept
      cases kept
    · rw [web]
      exact ⟨_, _, List.takeWhile_append_dropWhile.symm, fun c => List.mem_takeWhile_imp, read⟩
    · rw [foreign]
      rcases parseForeign_cases read with ⟨text, rfl, read⟩ | ⟨-, _, _, _, -, -, made⟩
      · exact ⟨"//".toList, text, rfl, rfl, read⟩
      · rw [made] at kept
        cases kept
  obtain ⟨slashes, text, rfl, slashed, read⟩ := located
  obtain ⟨authority, tail, ended, digits⟩ := parseWithAuthority_port read
  have some : portDigits authority ≠ [] := by
    intro nothing
    rw [nothing, kept] at digits
    cases digits
  obtain ⟨decimal, -, same⟩ := (readPort_eq_ok some).mp digits
  rw [kept] at same
  split at same
  · cases same
  · cases same
    obtain rfl := ended.whole
    exact givesPort_of_digits scheme_at slashed ⟨rfl, ended.inside, ended.stop⟩ some decimal

end Reading

section Dialling

variable {text : List Char} {u : Url}

/-- The usual port of `ftp`, given as such. -/
def IsUsualFtp (u : Url) (port : Nat) : Prop := u.scheme = "ftp".toList ∧ port = 21

theorem dialPort_of_given {port : Nat} (small : IsSmall u.scheme) (tls : Bool)
    (given : u.port? = if usualPort u.scheme = some port then none else some port) :
    (u.dialPort tls = port ↔ ¬ IsUsualFtp u port) ∧
      (IsUsualFtp u port → u.dialPort tls = schemePort u.scheme tls) := by
  by_cases usual : usualPort u.scheme = some port
  · rw [if_pos usual] at given
    have dialled := dialPort_of_none given small tls
    refine ⟨?_, fun _ => dialled⟩
    rw [dialled]
    rcases usualPort_cases usual with ⟨ftp, rfl⟩ | ⟨other, same⟩
    · rw [ftp]
      refine iff_of_false ?_ fun not => not ⟨ftp, rfl⟩
      cases tls <;> decide
    · exact iff_of_true (same tls) fun ftp => other ftp.1
  · rw [if_neg usual] at given
    have other : ¬ IsUsualFtp u port := by
      rintro ⟨ftp, rfl⟩
      rw [ftp] at usual
      exact usual rfl
    exact ⟨iff_of_true (dialPort_of_port given tls) other, fun ftp => absurd ftp other⟩

/-- The port that every text is dialled at: the one it gives, whether or not it is kept, unless
that is the usual one of `ftp`; and the one that goes with its scheme if it gives none. -/
theorem dialPort_of_parsed (read : parse text = .ok u) :
    ∃ scheme rest, SchemeAt (Path.counted (trim text)) scheme rest ∧
      u.scheme = scheme.map Char.toLower ∧ ∀ tls,
      (∀ port, GivesPort (Path.counted (trim text)) port →
        (u.dialPort tls = port ↔ ¬ IsUsualFtp u port) ∧
        (IsUsualFtp u port → u.dialPort tls = schemePort u.scheme tls)) ∧
      ((∀ port, ¬ GivesPort (Path.counted (trim text)) port) →
        u.dialPort tls = schemePort u.scheme tls) := by
  obtain ⟨scheme, rest, scheme_at, same, -⟩ := parse_scheme read
  have small : IsSmall u.scheme :=
    same ▸ isSmall_toLower fun c mem => ascii_of_isSchemeChar (scheme_at.letters c mem)
  refine ⟨scheme, rest, scheme_at, same, fun tls => ⟨?_, ?_⟩⟩
  · intro port given
    exact dialPort_of_given small tls (port_of_givesPort read given)
  · intro nothing
    have none : u.port? = none := by
      rw [Option.eq_none_iff_forall_ne_some]
      exact fun port kept => nothing port (givesPort_of_port read kept)
    exact dialPort_of_none none small tls

theorem usual_port_is_dialled :
    ∃ u, parse "WS://[::1]:80/".toList = .ok u ∧ u.port? = none ∧
      GivesPort (Path.counted (trim "WS://[::1]:80/".toList)) 80 ∧ ¬ IsUsualFtp u 80 ∧
      ∀ tls, u.dialPort tls = 80 := by
  let host : Host := .ipv6 ⟨[0, 0, 0, 0, 0, 0, 0, 1], rfl⟩
  let u : Url := ⟨"ws".toList, some ⟨[], [], some host, none⟩, ['/'], none, none⟩
  have read : parse "WS://[::1]:80/".toList = .ok u := rfl
  have scheme_at : SchemeAt (Path.counted (trim "WS://[::1]:80/".toList)) "WS".toList
      ("//".toList ++ ("[::1]:80".toList ++ ['/'])) := ⟨rfl, List.all_eq_true.mp rfl⟩
  have ended := cutAt_cut (endsAuthority .web) ("[::1]:80".toList ++ ['/'])
  have given := givesPort_of_digits scheme_at (List.all_eq_true.mp rfl) ended (by decide)
    (by decide)
  have other : ¬ IsUsualFtp u 80 := fun ftp => by cases ftp.1
  obtain ⟨-, -, -, -, dialled⟩ := dialPort_of_parsed read
  exact ⟨u, read, rfl, given, other, fun tls => ((dialled tls).1 80 given).1.mpr other⟩

/-- Another port is dialled than the one that the text gives. -/
theorem usual_ftp_port_is_lost :
    ∃ u, parse "ftp://[::1]:21/".toList = .ok u ∧ u.port? = none ∧
      GivesPort (Path.counted (trim "ftp://[::1]:21/".toList)) 21 ∧
      u.dialPort false = 80 ∧ u.dialPort true = 443 := by
  let host : Host := .ipv6 ⟨[0, 0, 0, 0, 0, 0, 0, 1], rfl⟩
  let u : Url := ⟨"ftp".toList, some ⟨[], [], some host, none⟩, ['/'], none, none⟩
  have scheme_at : SchemeAt (Path.counted (trim "ftp://[::1]:21/".toList)) "ftp".toList
      ("//".toList ++ ("[::1]:21".toList ++ ['/'])) := ⟨rfl, List.all_eq_true.mp rfl⟩
  have ended := cutAt_cut (endsAuthority .web) ("[::1]:21".toList ++ ['/'])
  have given := givesPort_of_digits scheme_at (List.all_eq_true.mp rfl) ended (by decide)
    (by decide)
  exact ⟨u, rfl, rfl, given, by decide, by decide⟩

end Dialling

end WebSocketClient.Url
