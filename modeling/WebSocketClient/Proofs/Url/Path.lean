import WebSocketClient.Url.Path

/-! # Paths that are read

No text puts a number sign into a path. A path that starts at the root goes on doing so, whatever
is read onto it. -/
namespace WebSocketClient.Url

section Encoding

theorem hexCapital_isAlphanum : ∀ value < 16, (hexCapital value).isAlphanum = true := by decide

theorem mem_percentOctet {octet : UInt8} {c : Char} (mem : c ∈ percentOctet octet) :
    c = '%' ∨ c.isAlphanum = true := by
  have bound := octet.toNat_lt
  simp only [percentOctet, List.mem_cons, List.not_mem_nil, or_false] at mem
  rcases mem with rfl | rfl | rfl
  · exact .inl rfl
  · exact .inr (hexCapital_isAlphanum _ (by omega))
  · exact .inr (hexCapital_isAlphanum _ (by omega))

/-- What stands in an encoded text is kept from the text, or spells an octet. -/
theorem mem_percentEncode {encodes : Char → Bool} {text : List Char} {c : Char}
    (mem : c ∈ percentEncode encodes text) :
    (c ∈ text ∧ encodes c = false) ∨ c = '%' ∨ c.isAlphanum = true := by
  obtain ⟨d, within, made⟩ := List.mem_flatMap.mp mem
  split at made
  · obtain ⟨octet, -, spelled⟩ := List.mem_flatMap.mp made
    exact .inr (mem_percentOctet spelled)
  · rename_i kept
    obtain rfl := List.mem_singleton.mp made
    exact .inl ⟨within, by simpa using kept⟩

theorem hash_not_mem_percentEncode {encodes : Char → Bool} {text : List Char}
    (absent : '#' ∉ text ∨ encodes '#' = true) : '#' ∉ percentEncode encodes text := by
  intro mem
  rcases mem_percentEncode mem with ⟨within, kept⟩ | sign | letter
  · rcases absent with absent | encoded
    · exact absent within
    · rw [encoded] at kept
      cases kept
  · cases sign
  · cases letter

end Encoding

namespace Path

def Rooted (path : List Char) : Prop := path.head? = some '/'

namespace Rooted

variable {path : List Char}

theorem append (h : Rooted path) (more : List Char) : Rooted (path ++ more) := by
  simp only [Rooted, List.head?_append] at *
  rw [h]
  rfl

theorem of_append {front back : List Char} (h : Rooted (front ++ back)) (some : front ≠ []) :
    Rooted front := by
  cases front with
  | nil => exact absurd rfl some
  | cons c front => exact h

theorem slashAtEnd (h : Rooted path) : Rooted (slashAtEnd path) := by
  unfold Path.slashAtEnd
  split
  · exact h
  · exact h.append _

theorem dropLast (h : Rooted path) (some : path.dropLast ≠ []) : Rooted path.dropLast := by
  have whole : path.dropLast ++ [path.getLast (by rintro rfl; exact some rfl)] = path :=
    List.dropLast_concat_getLast _
  exact of_append (whole ▸ h) some

/-- The last slash of a rooted path is the root at the earliest. -/
theorem splitLast (h : Rooted path) : Rooted (splitLast path).1 := by
  obtain ⟨rest, rfl⟩ := List.head?_eq_some_iff.mp h
  have tail : (('/' :: rest).reverse.takeWhile (· ≠ '/')).length ≤ rest.length := by
    have short : (rest.reverse.takeWhile (· ≠ '/')).length ≤ rest.length := by
      simpa using (List.takeWhile_sublist (l := rest.reverse) (fun c => decide (c ≠ '/'))).length_le
    rw [List.reverse_cons, List.takeWhile_append]
    split
    · simp
    · exact short
  simp only [Path.splitLast, List.length_reverse, List.length_cons]
  have kept : rest.length + 1 -
      (('/' :: rest).reverse.takeWhile (· ≠ '/')).length ≠ 0 := by omega
  obtain ⟨count, count_eq⟩ := Nat.exists_eq_succ_of_ne_zero kept
  rw [count_eq]
  rfl

theorem shorten (h : Rooted path) (kind : SchemeKind) : Rooted (shorten kind path) := by
  unfold Path.shorten
  dsimp only
  split
  · exact h
  · exact h.splitLast

/-- The slash that goes with the last segment is not the root. -/
theorem dropLast_of_lastSlashGoes (h : Rooted path) (goes : lastSlashGoes path = true) :
    Rooted path.dropLast := by
  apply h.dropLast
  intro nothing
  simp [lastSlashGoes, nothing, Path.splitLast] at goes

end Rooted

variable {kind : SchemeKind} {r : Reading}

theorem Rooted.addCounted (h : Rooted r.path) (segment : List Char) (slash : Bool) :
    Rooted (r.addCounted kind segment slash).path := by
  unfold Reading.addCounted
  split
  · exact h.slashAtEnd
  · have shorter : Rooted (Path.shorten kind
        (if endsWithSlash r.path && lastSlashGoes r.path then r.path.dropLast else r.path)) := by
      apply Rooted.shorten
      split
      · rename_i goes
        exact h.dropLast_of_lastSlashGoes (Bool.and_eq_true_iff.mp goes).2
      · exact h
    dsimp only
    split
    · exact shorter.slashAtEnd
    · exact shorter
  · split
    · exact (((h.append _).append _).append _)
    · exact ((h.append _).append _)

theorem Rooted.add (h : Rooted r.path) (text : List Char) (slash : Bool) :
    Rooted (r.add kind text slash).path := by
  unfold Reading.add
  split
  · exact ((h.append _).append _).append _
  · exact h.addCounted _ slash

theorem Rooted.addAll (h : Rooted r.path) (segments : List (List Char)) :
    Rooted (r.addAll kind segments).path := by
  induction segments generalizing r with
  | nil => exact h
  | cons segment rest ih =>
    cases rest with
    | nil => exact h.add segment false
    | cons other rest => exact ih (h.add segment true)

theorem Rooted.read {start : List Char} (h : Rooted start) (text : List Char) :
    Rooted (read kind start text).path := by
  unfold Path.read
  dsimp only
  split
  · rfl
  · exact Rooted.addAll (r := ⟨start, true⟩) h _

/-- A text with a slash in front is read onto the root. -/
theorem rooted_read_slash (rest : List Char) : Rooted (read .foreign [] ('/' :: rest)).path := by
  have split : ('/' :: rest).splitOnP SchemeKind.foreign.separates =
      [] :: rest.splitOnP SchemeKind.foreign.separates := by
    rw [List.splitOnP_cons_eq_if_modifyHead]
    rfl
  obtain ⟨segment, more, parts⟩ :=
    List.exists_cons_of_ne_nil (List.splitOnP_ne_nil SchemeKind.foreign.separates rest)
  unfold Path.read
  simp only [split, parts, reduceCtorEq, if_false]
  exact Rooted.addAll (r := Reading.add .foreign ⟨[], true⟩ [] true) rfl _

section NumberSign

theorem hash_not_mem_splitLast {path : List Char} (h : '#' ∉ path) : '#' ∉ (splitLast path).1 :=
  fun mem => h (List.mem_of_mem_take mem)

theorem hash_not_mem_shorten {path : List Char} (h : '#' ∉ path) : '#' ∉ shorten kind path := by
  unfold shorten
  dsimp only
  split
  · exact h
  · exact hash_not_mem_splitLast h

theorem hash_not_mem_slashAtEnd {path : List Char} (h : '#' ∉ path) : '#' ∉ slashAtEnd path := by
  unfold slashAtEnd
  split
  · exact h
  · simp [h]

theorem hash_not_mem_addCounted (h : '#' ∉ r.path) {segment : List Char} (plain : '#' ∉ segment)
    (slash : Bool) : '#' ∉ (r.addCounted kind segment slash).path := by
  have slashed : '#' ∉ slashIf slash := by cases slash <;> simp [slashIf]
  unfold Reading.addCounted
  split
  · exact hash_not_mem_slashAtEnd h
  · have shorter : '#' ∉ shorten kind
        (if endsWithSlash r.path && lastSlashGoes r.path then r.path.dropLast else r.path) := by
      apply hash_not_mem_shorten
      split
      · exact fun mem => h (List.dropLast_subset _ mem)
      · exact h
    dsimp only
    split
    · exact hash_not_mem_slashAtEnd shorter
    · exact shorter
  · split
    · have taken : '#' ∉ segment.take 1 := fun mem => plain (List.mem_of_mem_take mem)
      simp [h, taken, slashed]
    · simp [h, plain, slashed]

theorem hash_not_mem_splitDriveLetter {segment drive rest : List Char}
    (found : splitDriveLetter? segment = some (drive, rest)) : '#' ∉ drive := by
  unfold splitDriveLetter? at found
  split at found
  · cases found
  · split at found
    · split at found
      · rename_i letter _ _ _ _ _ _ fits
        simp only [Option.some.injEq, Prod.mk.injEq] at found
        obtain ⟨rfl, -⟩ := found
        have alpha : letter.isAlpha = true := by
          simp only [Bool.and_eq_true] at fits
          exact fits.1.1
        intro mem
        simp only [List.mem_cons, List.not_mem_nil, or_false, Char.reduceEq] at mem
        rw [← mem] at alpha
        cases alpha
      · cases found
    · cases found

theorem hash_not_mem_add (h : '#' ∉ r.path) (text : List Char) (slash : Bool) :
    '#' ∉ (r.add kind text slash).path := by
  have encoded (text : List Char) : '#' ∉ percentEncode inPathSet text :=
    hash_not_mem_percentEncode (.inr rfl)
  have slashed : '#' ∉ slashIf slash := by cases slash <;> simp [slashIf]
  unfold Reading.add
  split
  · rename_i drive rest found
    split at found
    · have plain := hash_not_mem_splitDriveLetter found
      simp [h, plain, encoded, slashed]
    · cases found
  · exact hash_not_mem_addCounted h (encoded _) slash

theorem hash_not_mem_addAll (h : '#' ∉ r.path) (segments : List (List Char)) :
    '#' ∉ (r.addAll kind segments).path := by
  induction segments generalizing r with
  | nil => exact h
  | cons segment rest ih =>
    cases rest with
    | nil => exact hash_not_mem_add h segment false
    | cons other rest => exact ih (hash_not_mem_add h segment true)

theorem hash_not_mem_read {start : List Char} (h : '#' ∉ start) (text : List Char) :
    '#' ∉ (read kind start text).path := by
  have added : '#' ∉ (Reading.addAll kind ⟨start, true⟩ (text.splitOnP kind.separates)).path :=
    hash_not_mem_addAll h _
  unfold Path.read
  dsimp only
  split
  · intro mem
    rcases List.mem_cons.mp mem with root | later
    · cases root
    · exact added ((List.dropWhile_sublist _).subset later)
  · exact added

end NumberSign

end Path

end WebSocketClient.Url
