import WebSocketClient.Proofs.Url.Authority

/-! # What a text of an IPv6 address stands for

Eight pieces of hexadecimal digits stand between colons. The last two may be written as an IPv4
address, and one run of zero pieces may be left out, which leaves two colons in a row. A text that
is written so is read as the address that it stands for, so it stands for no other. -/
namespace WebSocketClient.Url.Ipv6

structure HexPiece (text : List Char) (piece : UInt16) : Prop where
  nonempty : text ≠ []
  short : text.length ≤ 4
  digits : ∀ c ∈ text, isHex c = true
  value : Ipv4.readNumber 16 text = some piece.toNat

def piecesOf (a : Ipv4) : List UInt16 :=
  [UInt16.ofNat (a.value.toNat / 0x10000), UInt16.ofNat (a.value.toNat % 0x10000)]

/-- Pieces with colons in between, which may end in an IPv4 address if they are `dotted`. -/
inductive Spells : (dotted : Bool) → List Char → List UInt16 → Prop
  | last {dotted : Bool} {text : List Char} {piece : UInt16} (hex : HexPiece text piece) :
      Spells dotted text [piece]
  | ipv4 (a : Ipv4) : Spells true a.text (piecesOf a)
  | cons {dotted : Bool} {text rest : List Char} {piece : UInt16} {pieces : List UInt16}
      (hex : HexPiece text piece) (more : Spells dotted rest pieces) :
      Spells dotted (text ++ ':' :: rest) (piece :: pieces)

/-- What stands on one side of a gap: nothing, or pieces. -/
inductive Side (dotted : Bool) : List Char → List UInt16 → Prop
  | nothing : Side dotted [] []
  | pieces {text : List Char} {pieces : List UInt16} (spells : Spells dotted text pieces) :
      Side dotted text pieces

/-- The address that a text stands for. A gap stands for one zero piece at least. -/
inductive Denotes : List Char → Ipv6 → Prop
  | whole {text : List Char} {a : Ipv6} (spells : Spells true text a.pieces) : Denotes text a
  | gap {frontText backText : List Char} {front back : List UInt16} {zeros : Nat} {a : Ipv6}
      (before : Side false frontText front) (after : Side true backText back) (run : 0 < zeros)
      (pieces : a.pieces = front ++ List.replicate zeros 0 ++ back) :
      Denotes (frontText ++ ':' :: ':' :: backText) a

section Reading

variable {r : Reading} {text rest more : List Char} {piece : UInt16} {pieces : List UInt16}

def Reading.after (r : Reading) (pieces : List UInt16) : Reading :=
  { r with reversed := pieces.reverse ++ r.reversed }

theorem Reading.count_after (r : Reading) (pieces : List UInt16) :
    (r.after pieces).count = r.count + pieces.length := by
  simp [Reading.after, Reading.count, Nat.add_comm]

theorem Reading.after_after (r : Reading) (first then_ : List UInt16) :
    (r.after first).after then_ = r.after (first ++ then_) := by
  simp [Reading.after]

def Reading.gapped (r : Reading) : Reading := ⟨0 :: r.reversed, some (r.count + 1)⟩

theorem Reading.push_eq (r : Reading) (piece : UInt16) : r.push piece.toNat = r.after [piece] := by
  simp [Reading.push, Reading.after]

/-- The decimal form of an octet is read back, and it is a piece for its looks. -/
theorem readOctet_repr : ∀ n < 256, readOctet n.repr.toList = some n ∧ n.repr.toList ≠ [] ∧
    n.repr.toList.length ≤ 4 ∧ n.repr.toList.all isHex = true := by
  decide +kernel

theorem ne_colon {c : Char} (digit : isHex c = true) : c ≠ ':' := by
  rintro rfl
  exact absurd digit (by decide)

/-- Digits are read up to the first character that is none. -/
theorem splitPiece_append (digits : ∀ c ∈ text, isHex c = true) (short : text.length ≤ 4)
    (stop : ∀ c ∈ rest.head?, isHex c = false) : splitPiece (text ++ rest) = (text, rest) := by
  have stops (k : Nat) : (rest.take k).takeWhile isHex = [] := by
    cases rest with
    | nil => simp
    | cons c rest =>
      cases k with
      | zero => rfl
      | succ k => simp [stop c rfl]
  have front : ((text ++ rest).take 4).takeWhile isHex = text := by
    rw [List.take_append, List.take_of_length_le short, List.takeWhile_append_of_pos digits, stops,
      List.append_nil]
  rw [splitPiece, front, List.drop_left]

/-- A piece at the end of the text. -/
theorem readPieces_last (hex : HexPiece text piece) (room : r.count ≠ 8) (rounds : Nat) :
    readPieces (rounds + 1) r text = some (r.after [piece]) := by
  obtain ⟨c, rest, rfl⟩ := List.exists_cons_of_ne_nil hex.nonempty
  have digit : c ≠ ':' := ne_colon (hex.digits c List.mem_cons_self)
  have split := @splitPiece_append (c :: rest) [] hex.digits hex.short (by simp)
  rw [List.append_nil] at split
  rw [readPieces, if_neg room, if_neg digit]
  dsimp only
  rw [split, hex.value, Option.getD_some, r.push_eq]

/-- A piece with a colon after it, and more after that. -/
theorem readPieces_piece (hex : HexPiece text piece) (room : r.count ≠ 8) (goesOn : more ≠ [])
    (rounds : Nat) :
    readPieces (rounds + 1) r (text ++ ':' :: more) = readPieces rounds (r.after [piece]) more := by
  obtain ⟨c, rest, rfl⟩ := List.exists_cons_of_ne_nil hex.nonempty
  obtain ⟨d, more, rfl⟩ := List.exists_cons_of_ne_nil goesOn
  have digit : c ≠ ':' := ne_colon (hex.digits c List.mem_cons_self)
  have split := @splitPiece_append (c :: rest) (':' :: d :: more) hex.digits hex.short (by
    rintro _ ⟨⟩
    decide)
  rw [List.cons_append] at split ⊢
  rw [readPieces, if_neg room, if_neg digit]
  dsimp only
  rw [split, hex.value, Option.getD_some, r.push_eq]
  rfl

/-- The second of two colons in a row. -/
theorem readPieces_gap (room : r.count ≠ 8) (first : r.gap = none) (rest : List Char)
    (rounds : Nat) :
    readPieces (rounds + 1) r (':' :: rest) = readPieces rounds r.gapped rest := by
  rw [readPieces, if_neg room, if_pos rfl, first]
  rfl

def octetTexts (a : Ipv4) : List (List Char) := a.octets.map fun n => n.repr.toList

theorem text_eq (a : Ipv4) : a.text = ['.'].intercalate (octetTexts a) := by
  simp [Ipv4.text, octetTexts, List.intercalate, List.map_map, Function.comp_def]

theorem octet_lt {a : Ipv4} {n : Nat} (octet : n ∈ a.octets) : n < 256 := by
  have := a.value.toNat_lt
  simp only [Ipv4.octets, List.mem_cons, List.not_mem_nil, or_false] at octet
  omega

theorem splitOnP_text (a : Ipv4) : a.text.splitOnP (· == '.') = octetTexts a := by
  rw [text_eq]
  refine List.splitOn_intercalate '.' ?_ (by simp [octetTexts, Ipv4.octets])
  intro text listed dot
  obtain ⟨n, octet, rfl⟩ := List.mem_map.mp listed
  obtain ⟨-, -, -, digits⟩ := readOctet_repr n (octet_lt octet)
  exact absurd (List.all_eq_true.mp digits '.' dot) (by decide)

theorem octets_pair (n : Nat) : n / 0x1000000 * 256 + n / 0x10000 % 256 = n / 0x10000 ∧
    n / 0x100 % 256 * 256 + n % 256 = n % 0x10000 := by
  have nested : n / 0x1000000 = n / 0x10000 / 256 := (Nat.div_div_eq_div_mul n 0x10000 256).symm
  rw [nested]
  omega

/-- The four octets of a dotted ending fill two pieces. -/
theorem readDotted_text (a : Ipv4) (room : r.count ≤ 6) :
    readDotted r a.text = some (r.after (piecesOf a)) := by
  have octets : (octetTexts a).map readOctet = a.octets.map some := by
    rw [octetTexts, List.map_map]
    exact List.map_congr_left fun n octet => (readOctet_repr n (octet_lt octet)).1
  obtain ⟨high, low⟩ := octets_pair a.value.toNat
  rw [readDotted, splitOnP_text, octets]
  simp only [Ipv4.octets, List.map_cons, List.map_nil, if_pos room, high, low]
  rfl

/-- A dotted ending starts with an octet. -/
theorem text_cases (a : Ipv4) : ∃ c octet rest, a.text = c :: octet ++ '.' :: rest ∧
    (c :: octet).length ≤ 4 ∧ ∀ d ∈ c :: octet, isHex d = true := by
  obtain ⟨-, nonempty, short, digits⟩ := readOctet_repr _ (octet_lt (a := a) List.mem_cons_self)
  obtain ⟨c, octet, first⟩ := List.exists_cons_of_ne_nil nonempty
  rw [first] at short
  rw [first, List.all_eq_true] at digits
  have whole : ∃ rest, a.text = (a.value.toNat / 0x1000000).repr.toList ++ '.' :: rest := by
    rw [text_eq]
    exact ⟨_, rfl⟩
  obtain ⟨rest, whole⟩ := whole
  exact ⟨c, octet, rest, first ▸ whole, short, digits⟩

/-- Pieces start with a digit. -/
theorem Spells.head {dotted : Bool} (h : Spells dotted text pieces) :
    ∃ c tail, text = c :: tail ∧ c ≠ ':' := by
  have starts {text : List Char} {piece : UInt16} (hex : HexPiece text piece) :
      ∃ c tail, text = c :: tail ∧ c ≠ ':' := by
    obtain ⟨c, tail, rfl⟩ := List.exists_cons_of_ne_nil hex.nonempty
    exact ⟨c, tail, rfl, ne_colon (hex.digits c List.mem_cons_self)⟩
  cases h with
  | last hex => exact starts hex
  | ipv4 a =>
    obtain ⟨c, octet, rest, whole, -, digits⟩ := text_cases a
    exact ⟨c, _, whole, ne_colon (digits c List.mem_cons_self)⟩
  | cons hex _ =>
    obtain ⟨c, tail, rfl, digit⟩ := starts hex
    exact ⟨c, _, rfl, digit⟩

theorem Spells.ne_nil {dotted : Bool} (h : Spells dotted text pieces) : text ≠ [] := by
  obtain ⟨c, tail, rfl, -⟩ := h.head
  exact List.cons_ne_nil c tail

/-- A dotted ending is told from a piece by its first point. -/
theorem readPieces_ipv4 (a : Ipv4) (room : r.count ≤ 6) (rounds : Nat) :
    readPieces (rounds + 1) r a.text = some (r.after (piecesOf a)) := by
  obtain ⟨c, octet, rest, whole, short, digits⟩ := text_cases a
  have dotted := readDotted_text a room
  rw [whole] at dotted ⊢
  have digit : c ≠ ':' := ne_colon (digits c List.mem_cons_self)
  have split := @splitPiece_append (c :: octet) ('.' :: rest) digits short (by
    rintro _ ⟨⟩
    decide)
  rw [List.cons_append] at split dotted ⊢
  rw [readPieces, if_neg (by omega), if_neg digit]
  dsimp only
  rw [split]
  exact dotted

/-- Pieces up to the end of the text are read, if there is room for them. -/
theorem Spells.readPieces_eq {dotted : Bool} (h : Spells dotted text pieces)
    (room : r.count + pieces.length ≤ 8) (rounds : Nat) :
    readPieces (rounds + pieces.length) r text = some (r.after pieces) := by
  induction h generalizing r with
  | last hex =>
    rw [List.length_singleton] at room ⊢
    exact readPieces_last hex (by omega) rounds
  | ipv4 a =>
    have two : (piecesOf a).length = 2 := rfl
    rw [two] at room ⊢
    exact readPieces_ipv4 a (by omega) (rounds + 1)
  | @cons _ text rest piece pieces hex more ih =>
    rw [List.length_cons] at room ⊢
    rw [← Nat.add_assoc, readPieces_piece hex (by omega) more.ne_nil, ih, Reading.after_after]
    · rfl
    · rw [Reading.count_after, List.length_singleton]
      omega

/-- Pieces up to the first of two colons in a row. -/
theorem Spells.readPieces_gap_eq {front : List UInt16} (h : Spells false text front)
    (room : r.count + front.length < 8) (first : r.gap = none) (rest : List Char) (rounds : Nat) :
    readPieces (rounds + 1 + front.length) r (text ++ ':' :: ':' :: rest) =
      readPieces rounds (r.after front).gapped rest := by
  generalize dots : false = dotted at h
  induction h generalizing r with
  | @last _ text piece hex =>
    have count := r.count_after [piece]
    have fresh : (r.after [piece]).gap = none := first
    rw [List.length_singleton] at room count ⊢
    rw [readPieces_piece hex (by omega) (by simp), readPieces_gap (by omega) fresh]
  | ipv4 => cases dots
  | @cons _ text more piece pieces hex _ ih =>
    have count := r.count_after [piece]
    have fresh : (r.after [piece]).gap = none := first
    rw [List.length_cons] at room ⊢
    rw [List.length_singleton] at count
    rw [List.append_assoc, List.cons_append, ← Nat.add_assoc,
      readPieces_piece hex (by omega) (by simp), ih (by omega) fresh dots, Reading.after_after]
    rfl

end Reading

section Texts

variable {text frontText backText : List Char} {pieces front back : List UInt16} {a : Ipv6}

/-- Every piece is written by one character at least. -/
theorem Spells.length_le {dotted : Bool} (h : Spells dotted text pieces) :
    pieces.length ≤ text.length := by
  induction h with
  | last hex => exact List.length_pos_iff.mpr hex.nonempty
  | ipv4 a =>
    obtain ⟨c, octet, rest, whole, -⟩ := text_cases a
    simp only [whole, piecesOf, List.length_append, List.length_cons, List.length_nil]
    omega
  | cons hex more ih =>
    simp only [List.length_cons, List.length_append]
    omega

theorem Side.length_le {dotted : Bool} (h : Side dotted text pieces) :
    pieces.length ≤ text.length := by
  cases h with
  | nothing => exact Nat.le_refl _
  | pieces spells => exact spells.length_le

theorem Side.readPieces_eq {dotted : Bool} (h : Side dotted text pieces) {r : Reading}
    (room : r.count + pieces.length ≤ 8) {rounds : Nat} (enough : pieces.length ≤ rounds) :
    readPieces rounds r text = some (r.after pieces) := by
  cases h with
  | nothing => cases rounds <;> rfl
  | pieces spells =>
    obtain ⟨more, rfl⟩ := Nat.exists_eq_add_of_le' enough
    exact spells.readPieces_eq room more

theorem parse?_of_piece {c : Char} (digit : c ≠ ':') (d : Char) (rest : List Char) :
    parse? (c :: d :: rest) =
      (readPieces (c :: d :: rest).length ⟨[], none⟩ (c :: d :: rest)).bind Reading.finish :=
  if_pos digit

theorem finish_whole (a : Ipv6) : ((⟨[], none⟩ : Reading).after a.pieces).finish = some a := by
  simp only [Reading.finish, Reading.after, List.append_nil, List.reverse_reverse]
  rw [dif_pos a.eight]

/-- A gap is filled up to eight pieces. -/
theorem finish_gapped {zeros : Nat} (run : 0 < zeros)
    (pieces : a.pieces = front ++ List.replicate zeros 0 ++ back) :
    (((⟨[], none⟩ : Reading).after front).gapped.after back).finish = some a := by
  obtain ⟨more, rfl⟩ : ∃ more, zeros = more + 1 := ⟨zeros - 1, by omega⟩
  have eight := a.eight
  rw [pieces, List.length_append, List.length_append, List.length_replicate] at eight
  have read : (((⟨[], none⟩ : Reading).after front).gapped.after back).reversed.reverse =
      front ++ 0 :: back := by
    simp [Reading.after, Reading.gapped]
  have gap : (((⟨[], none⟩ : Reading).after front).gapped.after back).gap =
      some (front.length + 1) := by
    simp [Reading.after, Reading.gapped, Reading.count]
  have filled : (front ++ 0 :: back).take (front.length + 1) ++
      List.replicate (8 - (front ++ 0 :: back).length) 0 ++
        (front ++ 0 :: back).drop (front.length + 1) = a.pieces := by
    have missing : 8 - (front ++ 0 :: back).length = more := by
      rw [List.length_append, List.length_cons]
      omega
    rw [missing, pieces]
    simp [List.take_length_add_append, List.drop_length_add_append, List.replicate_succ]
  rw [Reading.finish]
  simp only [read, gap, filled]
  exact dif_pos a.eight

/-- A text is read as the address that it stands for. -/
theorem Denotes.parse?_eq (h : Denotes text a) : parse? text = some a := by
  have empty : (⟨[], none⟩ : Reading).count = 0 := rfl
  cases h with
  | whole spells =>
    have eight := a.eight
    have long := spells.length_le
    obtain ⟨c, tail, rfl, digit⟩ := spells.head
    obtain ⟨d, tail, rfl⟩ : ∃ d rest, tail = d :: rest := by
      apply List.exists_cons_of_ne_nil
      rintro rfl
      rw [List.length_singleton] at long
      omega
    obtain ⟨more, enough⟩ := Nat.exists_eq_add_of_le' long
    rw [parse?_of_piece digit, enough, spells.readPieces_eq (by omega), Option.bind_some,
      finish_whole]
  | @gap frontText backText front back zeros _ before after run pieces =>
    have eight := a.eight
    rw [pieces, List.length_append, List.length_append, List.length_replicate] at eight
    have count (r : Reading) : r.gapped.count = r.count + 1 := rfl
    have start : ((⟨[], none⟩ : Reading).after front).count = front.length := by
      rw [Reading.count_after, empty, Nat.zero_add]
    have enough := after.length_le
    have rest {rounds : Nat} (enough : back.length ≤ rounds) :
        (readPieces rounds ((⟨[], none⟩ : Reading).after front).gapped backText).bind
          Reading.finish = some a := by
      rw [after.readPieces_eq (by rw [count, start]; omega) enough, Option.bind_some]
      exact finish_gapped run pieces
    cases before with
    | nothing => exact rest enough
    | pieces spells =>
      have long := spells.length_le
      obtain ⟨c, tail, rfl, digit⟩ := spells.head
      obtain ⟨d, last, second⟩ : ∃ d last, tail ++ ':' :: ':' :: backText = d :: last :=
        List.exists_cons_of_ne_nil (by simp)
      -- A round for each piece in front, one for the gap, and enough for what follows.
      obtain ⟨more, length⟩ : ∃ more, (c :: d :: last).length = more + 1 + front.length ∧
          back.length ≤ more := by
        refine ⟨(c :: d :: last).length - 1 - front.length, ?_⟩
        rw [← second, List.length_cons, List.length_append, List.length_cons, List.length_cons]
        rw [List.length_cons] at long
        omega
      rw [List.cons_append, second, parse?_of_piece digit, length.1, ← second, ← List.cons_append,
        spells.readPieces_gap_eq (by rw [empty]; omega) rfl]
      exact rest length.2

end Texts

end WebSocketClient.Url.Ipv6
