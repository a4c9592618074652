import Mathlib.Data.List.TakeWhile
import WebSocketClient.Error
import WebSocketClient.Url.Parser

/-! # The parts of a text that is read as a URL

A text is cut at the first character that ends a part. Where it is cut is fixed by the text, so a
text that is put together from parts is taken apart into them again. -/
namespace WebSocketClient.Url

/-- `front` reaches up to the first character that ends it, and `back` starts with that one. -/
structure CutAt (ends : Char → Bool) (text front back : List Char) : Prop where
  whole : text = front ++ back
  inside : ∀ c ∈ front, ends c = false
  stop : ∀ c ∈ back.head?, ends c = true

section Cuts

variable {ends : Char → Bool} {text front back : List Char}

theorem CutAt.cut_eq (h : CutAt ends text front back) : cut ends text = (front, back) := by
  have inside : ∀ c ∈ front, (!ends c) = true := fun c mem => by simp [h.inside c mem]
  rw [h.whole, cut, List.takeWhile_append_of_pos inside, List.dropWhile_append_of_pos inside]
  cases back with
  | nil => simp
  | cons c back => simp [h.stop c rfl]

theorem CutAt.unique {front' back' : List Char} (h : CutAt ends text front back)
    (h' : CutAt ends text front' back') : front = front' ∧ back = back' := by
  have same := h.cut_eq.symm.trans h'.cut_eq
  exact ⟨congrArg Prod.fst same, congrArg Prod.snd same⟩

theorem cutAt_cut (ends : Char → Bool) (text : List Char) :
    CutAt ends text (cut ends text).1 (cut ends text).2 := by
  refine ⟨List.takeWhile_append_dropWhile.symm, ?_, ?_⟩
  · intro c mem
    simpa using List.mem_takeWhile_imp mem
  · intro c mem
    have stop := List.head?_dropWhile_not (!ends ·) text
    rw [show (List.dropWhile (!ends ·) text).head? = some c from mem] at stop
    simpa using stop

end Cuts

/-- A scheme is what stands before the first colon, in small letters. -/
theorem splitScheme_cases {text scheme rest : List Char}
    (found : splitScheme text = some (scheme, rest)) :
    ∃ written, text = written ++ ':' :: rest ∧ (∀ c ∈ written, isSchemeChar c = true) ∧
      scheme = written.map Char.toLower := by
  obtain ⟨back, whole⟩ := List.takeWhile_prefix (l := text) isSchemeChar
  have rest_eq : text.drop (text.takeWhile isSchemeChar).length = back := by
    have left : (text.takeWhile isSchemeChar ++ back).drop _ = back := List.drop_left
    rwa [whole] at left
  unfold splitScheme at found
  dsimp only at found
  rw [rest_eq] at found
  split at found
  · split at found
    · cases found
      exact ⟨_, whole.symm, fun c mem => List.mem_takeWhile_imp mem, rfl⟩
    · cases found
  · cases found

/-- A text is read by the kind of its scheme. -/
theorem parse_cases {text : List Char} {u : Url} (read : parse text = .ok u) :
    ∃ scheme rest, splitScheme (Path.counted (trim text)) = some (scheme, rest) ∧
      ((SchemeKind.ofScheme scheme = .file ∧
          parseFile scheme (((trim text).dropWhile (· ≠ ':')).drop 1) = .ok u) ∨
        (SchemeKind.ofScheme scheme = .web ∧
          parseWithAuthority .web scheme (rest.dropWhile SchemeKind.web.separates) = .ok u) ∨
        (SchemeKind.ofScheme scheme = .foreign ∧ parseForeign scheme rest = .ok u)) := by
  unfold parse at read
  dsimp only at read
  split at read
  · cases read
  · rename_i scheme rest found
    refine ⟨scheme, rest, found, ?_⟩
    split at read
    · rename_i kind
      exact .inl ⟨kind, read⟩
    · rename_i kind
      exact .inr (.inl ⟨kind, read⟩)
    · rename_i kind
      exact .inr (.inr ⟨kind, read⟩)

/-- An authority ends where a path, a query or a fragment starts. -/
theorem parseWithAuthority_cases {kind : SchemeKind} {scheme text : List Char} {u : Url}
    (read : parseWithAuthority kind scheme text = .ok u) :
    ∃ front rest authority after path tail,
      CutAt (endsAuthority kind) text front rest ∧
      parseAuthority kind scheme front (rest != []) = .ok (authority, after) ∧
      CutAt endsPath (after ++ rest) path tail ∧
      u = assemble kind scheme (some authority) (pathAfterAuthority kind path).path tail := by
  unfold parseWithAuthority at read
  obtain ⟨⟨authority, after⟩, located, made⟩ := Error.bind_eq_ok.mp read
  cases made
  exact ⟨_, _, authority, after, _, _, cutAt_cut _ _, located, cutAt_cut _ _, rfl⟩

/-- A foreign URL has an authority if two slashes come first. -/
theorem parseForeign_cases {scheme text : List Char} {u : Url}
    (read : parseForeign scheme text = .ok u) :
    (∃ rest, text = '/' :: '/' :: rest ∧ parseWithAuthority .foreign scheme rest = .ok u) ∨
    ((∀ rest, text ≠ '/' :: '/' :: rest) ∧ ∃ front path tail,
      '#' ∉ front ∧
      (path = (Path.read .foreign ['/'] front).path ∨ path = percentEncode isControl front) ∧
      u = assemble .foreign scheme none path tail) := by
  have plain (text : List Char) : '#' ∉ (cut endsPath text).1 := by
    intro mem
    cases (cutAt_cut endsPath text).inside '#' mem
  unfold parseForeign at read
  split at read
  · exact .inl ⟨_, rfl, read⟩
  · rename_i rest other
    cases read
    refine .inr ⟨?_, _, _, _, plain rest, .inl rfl, rfl⟩
    intro more same
    exact other more (List.cons.inj same).2
  · rename_i slashes _
    cases read
    exact .inr ⟨fun more same => slashes more same, _, _, _, plain text, .inr rfl, rfl⟩

/-- A file's path is read onto the root, whether a host stands before it or not. -/
theorem filePath_eq (host : Option Host) (text : List Char) :
    ∃ counted, (if host = none then Path.read .file ['/'] text
      else pathAfterAuthority .file text) = Path.read .file ['/'] counted := by
  by_cases none : host = none
  · exact ⟨text, if_pos none⟩
  · rw [if_neg none]
    cases text with
    | nil => exact ⟨[], rfl⟩
    | cons c rest => exact ⟨_, rfl⟩

/-- A file's URL has an authority in any case, and no port. -/
theorem parseFile_cases {scheme text : List Char} {u : Url}
    (read : parseFile scheme text = .ok u) :
    ∃ host start path tail, '#' ∉ start ∧
      u = assemble .file scheme (some { noAuthority with host })
        (Path.read .file start path).path tail := by
  have root : '#' ∉ ['/'] := by decide
  unfold parseFile at read
  split at read
  · obtain ⟨host, -, made⟩ := Error.bind_eq_ok.mp read
    obtain ⟨counted, same⟩ := filePath_eq host _
    dsimp only at made
    rw [same] at made
    cases made
    exact ⟨_, ['/'], counted, _, root, rfl⟩
  · cases read
    split
    · exact ⟨none, ['/'], _, _, root, rfl⟩
    · split
      · exact ⟨none, [], _, _, List.not_mem_nil, rfl⟩
      · exact ⟨none, ['/'], _, _, root, rfl⟩

end WebSocketClient.Url
