import WebSocketClient.Proofs.Url.Parts

/-! # The port in an authority

The port stands after the first colon outside brackets of what follows the last at-sign. -/
namespace WebSocketClient.Url

/-- Whether brackets are open at the end of a text, if they are or are not at its start. -/
def inBrackets (inside : Bool) (text : List Char) : Bool :=
  text.foldl (fun inside c => if c = '[' then true else if c = ']' then false else inside) inside

section Host

variable {inside : Bool} {text host rest : List Char}

def ColonsInside (inside : Bool) (host : List Char) : Prop :=
  ∀ front back, host = front ++ ':' :: back → inBrackets inside front = true

theorem splitHost_eq (colons : ColonsInside inside host) (outside : inBrackets inside host = false)
    (rest : List Char) : splitHost inside (host ++ ':' :: rest) = (host, ':' :: rest) := by
  induction host generalizing inside with
  | nil =>
    obtain rfl : inside = false := outside
    rfl
  | cons c host ih =>
    have goesOn : ¬ (c = ':' ∧ inside = false) := by
      rintro ⟨rfl, rfl⟩
      cases colons [] host rfl
    have later := ih (fun front back same => colons (c :: front) back (by rw [same]; rfl)) outside
    rw [List.cons_append, splitHost, if_neg goesOn]
    dsimp only
    rw [later]

theorem splitHost_cases (split : splitHost inside text = (host, rest)) :
    text = host ++ rest ∧ ColonsInside inside host ∧
      (rest = [] ∨ ∃ after, rest = ':' :: after ∧ inBrackets inside host = false) := by
  have none (inside : Bool) : ColonsInside inside [] := by
    intro front back same
    simp at same
  induction text generalizing inside host with
  | nil =>
    cases split
    exact ⟨rfl, none _, .inl rfl⟩
  | cons c text ih =>
    rw [splitHost] at split
    split at split
    · rename_i colon
      obtain ⟨rfl, rfl⟩ := colon
      cases split
      exact ⟨rfl, none _, .inr ⟨text, rfl, rfl⟩⟩
    · rename_i goesOn
      cases split
      obtain ⟨whole, colons, stop⟩ := ih rfl
      refine ⟨by rw [List.cons_append, ← whole], ?_, stop⟩
      intro front back same
      cases front with
      | nil =>
        obtain rfl : c = ':' := (List.cons.inj same).1
        simpa [inBrackets] using goesOn
      | cons d front =>
        obtain ⟨rfl, later⟩ := List.cons.inj same
        exact colons front back later

end Host

section Location

variable {text userinfo location : List Char}

structure LocatedAt (text userinfo location : List Char) : Prop where
  whole : text = userinfo ++ location
  signed : userinfo = [] ∨ ∃ user, userinfo = user ++ ['@']
  plain : '@' ∉ location

def locationOf (text : List Char) : List Char := ((splitAtSign text).getD ([], text)).2

/-- What follows the last at-sign is the same however much precedes it. -/
theorem takeWhile_reverse_location (plain : '@' ∉ location) (user : List Char) :
    ((user ++ '@' :: location).reverse.takeWhile (· ≠ '@')).reverse = location := by
  have other : ∀ c ∈ location.reverse, decide (c ≠ '@') = true := by
    intro c mem
    rw [List.mem_reverse] at mem
    exact decide_eq_true fun same => plain (same ▸ mem)
  rw [List.reverse_append, List.reverse_cons, List.append_assoc,
    List.takeWhile_append_of_pos other]
  simp

theorem LocatedAt.locationOf_eq (h : LocatedAt text userinfo location) :
    locationOf text = location := by
  have plain := h.plain
  rcases h.signed with rfl | ⟨user, rfl⟩
  · obtain rfl : text = location := h.whole
    simp [locationOf, splitAtSign, plain]
  · obtain rfl : text = user ++ '@' :: location := by simpa using h.whole
    have sign : (user ++ '@' :: location).contains '@' = true := by simp
    rw [locationOf, splitAtSign, if_pos sign]
    exact takeWhile_reverse_location plain user

theorem exists_locatedAt (text : List Char) :
    ∃ userinfo, LocatedAt text userinfo (locationOf text) := by
  by_cases sign : '@' ∈ text
  · obtain ⟨back, user, split, plain⟩ := List.eq_append_cons_of_mem (List.mem_reverse.mpr sign)
    have whole : text = user.reverse ++ '@' :: back.reverse := by
      rw [← List.reverse_reverse text, split]
      simp
    have located : LocatedAt text (user.reverse ++ ['@']) back.reverse :=
      ⟨by simp [whole], .inr ⟨_, rfl⟩, by simpa using plain⟩
    exact ⟨_, by rwa [located.locationOf_eq]⟩
  · have located : LocatedAt text [] text := ⟨rfl, .inl rfl, sign⟩
    exact ⟨[], by rwa [located.locationOf_eq]⟩

end Location

section Digits

/-- A decimal digit stands for its distance from zero, and nothing else stands for less than ten. -/
theorem digit_value (c : Char) :
    (c.isDigit = true ∧ hexValue? c = some (c.toNat - '0'.toNat) ∧ c.toNat - '0'.toNat < 10) ∨
      (c.isDigit = false ∧ ∀ value ∈ hexValue? c, ¬ value < 10) := by
  by_cases decimal : '0' ≤ c ∧ c ≤ '9'
  · have bounds : '0'.toNat ≤ c.toNat ∧ c.toNat ≤ '9'.toNat := decimal
    refine .inl ⟨?_, if_pos decimal, ?_⟩
    · simpa [Char.isDigit, Char.le_def] using decimal
    · simp only [Char.reduceToNat] at bounds ⊢
      omega
  · refine .inr ⟨?_, ?_⟩
    · simpa [Char.isDigit, Char.le_def] using decimal
    · intro value found
      rw [hexValue?, if_neg decimal] at found
      split at found
      · rename_i small
        have bound : 'a'.toNat ≤ c.toNat := small.1
        cases found
        simp only [Char.reduceToNat] at bound
        omega
      · split at found
        · rename_i capital
          have bound : 'A'.toNat ≤ c.toNat := capital.1
          cases found
          simp only [Char.reduceToNat] at bound
          omega
        · cases found

theorem readNumber_none (base : Nat) (digits : List Char) :
    digits.foldl (fun value c => match value, hexValue? c with
      | some n, some digit => if digit < base then some (n * base + digit) else none
      | _, _ => none) none = none := by
  induction digits with
  | nil => rfl
  | cons c digits ih => exact ih

theorem readNumber_ten_from (digits : List Char) (start : Nat) :
    digits.foldl (fun value c => match value, hexValue? c with
      | some n, some digit => if digit < 10 then some (n * 10 + digit) else none
      | _, _ => none) (some start) =
    if digits.all Char.isDigit then some (Nat.ofDigitChars 10 digits start) else none := by
  induction digits generalizing start with
  | nil => rfl
  | cons c digits ih =>
    rw [List.foldl_cons]
    rcases digit_value c with ⟨decimal, value, small⟩ | ⟨other, large⟩
    · rw [value]
      dsimp only
      rw [if_pos small, ih, List.all_cons, decimal, Bool.true_and, Nat.mul_comm start]
      rfl
    · rw [List.all_cons, other, Bool.false_and, if_neg Bool.false_ne_true]
      cases found : hexValue? c with
      | none => exact readNumber_none 10 digits
      | some value =>
        dsimp only
        rw [if_neg (large value found)]
        exact readNumber_none 10 digits

theorem readNumber_ten (digits : List Char) :
    Ipv4.readNumber 10 digits =
      if digits.all Char.isDigit then some (Nat.ofDigitChars 10 digits 0) else none :=
  readNumber_ten_from digits 0

/-- A port is a decimal number that fits sixteen bits. The usual one of the scheme is not kept. -/
theorem readPort_eq_ok {scheme digits : List Char} {port : Option Nat} (some : digits ≠ []) :
    readPort scheme digits = .ok port ↔ digits.all Char.isDigit = true ∧
      Nat.ofDigitChars 10 digits 0 ≤ 65535 ∧
      port = if usualPort scheme = Option.some (Nat.ofDigitChars 10 digits 0) then none
        else Option.some (Nat.ofDigitChars 10 digits 0) := by
  obtain ⟨c, rest, rfl⟩ := List.exists_cons_of_ne_nil some
  have number := readNumber_ten (c :: rest)
  unfold readPort
  by_cases decimal : (c :: rest).all Char.isDigit = true
  · rw [if_pos decimal] at number
    rw [number]
    dsimp only
    by_cases fits : Nat.ofDigitChars 10 (c :: rest) 0 ≤ 65535
    · rw [if_pos fits, Except.ok.injEq]
      exact ⟨fun made => ⟨decimal, fits, made.symm⟩, fun made => made.2.2.symm⟩
    · rw [if_neg fits]
      exact ⟨nofun, fun made => absurd made.2.1 fits⟩
  · rw [if_neg decimal] at number
    rw [number]
    exact ⟨nofun, fun made => absurd made.1 decimal⟩

end Digits

/-- The port of an authority stands between a colon and the end or a backslash. -/
structure PortAt (text userinfo host digits after : List Char) : Prop where
  located : LocatedAt text userinfo (host ++ ':' :: (digits ++ after))
  colons : ColonsInside false host
  outside : inBrackets false host = false
  ended : CutAt (· == '\\') (digits ++ after) digits after

section Reading

variable {kind : SchemeKind} {scheme text after : List Char} {more : Bool} {authority : Authority}

def portDigits (text : List Char) : List Char :=
  (cut (· == '\\') ((splitHost false (locationOf text)).2.drop 1)).1

theorem PortAt.portDigits_eq {userinfo host digits : List Char}
    (h : PortAt text userinfo host digits after) : portDigits text = digits := by
  rw [portDigits, h.located.locationOf_eq, splitHost_eq h.colons h.outside, List.drop_one,
    List.tail_cons, h.ended.cut_eq]

theorem exists_portAt (some : portDigits text ≠ []) :
    ∃ userinfo host after, PortAt text userinfo host (portDigits text) after := by
  obtain ⟨userinfo, located⟩ := exists_locatedAt text
  obtain ⟨whole, colons, stop⟩ :=
    splitHost_cases (show splitHost false (locationOf text) = (_, _) from rfl)
  rcases stop with none | ⟨after, rest, outside⟩
  · exact absurd (by rw [portDigits, none]; rfl) some
  · have digits : portDigits text = (cut (· == '\\') after).1 := by
      rw [portDigits, rest]
      rfl
    have ended := cutAt_cut (· == '\\') after
    rw [digits]
    refine ⟨userinfo, _, _, ?_, colons, outside, rfl, ended.inside, ended.stop⟩
    rwa [← ended.whole, ← rest, ← whole]

theorem parseAuthority_port (read : parseAuthority kind scheme text more = .ok (authority, after)) :
    readPort scheme (portDigits text) = .ok authority.port := by
  unfold parseAuthority at read
  dsimp only at read
  split at read
  · cases read
  · obtain ⟨host, -, read⟩ := Error.bind_eq_ok.mp read
    split at read
    · cases read
    · obtain ⟨port, given, read⟩ := Error.bind_eq_ok.mp read
      split at read
      · cases read
      · cases read
        exact given

end Reading

end WebSocketClient.Url
