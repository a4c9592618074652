import WebSocketClient.Proofs.Url.Parts
import WebSocketClient.Proofs.Url.Path
import WebSocketClient.Url.Basic

/-! # The request target of a URL

The fragment is never part of it. It is in origin form, that is, the path or else the root, then
the query if there is one, save where a foreign URL has a query right after its authority. -/
namespace WebSocketClient.Url

/-- What a request line should have for a target. -/
def originForm (u : Url) : List Char :=
  (if u.path = [] then ['/'] else u.path) ++ introduced '?' u.query

def QueryWithoutPath (u : Url) : Prop := u.path = [] ∧ u.query.isSome

section Assembly

variable {kind : SchemeKind} {scheme path tail : List Char} {authority : Option Authority}

/-- A query ends where the fragment starts. -/
theorem hash_not_mem_assemble_query {query : List Char}
    (some : (assemble kind scheme authority path tail).query = some query) : '#' ∉ query := by
  change (parseQuery kind tail).1 = _ at some
  unfold parseQuery at some
  split at some
  · rename_i rest
    dsimp only at some
    cases some
    refine hash_not_mem_percentEncode (.inl fun mem => ?_)
    cases (cutAt_cut (· == '#') rest).inside '#' mem
  · cases some

end Assembly

/-- What every text makes of the parts that the target is put together from. -/
structure Targetable (u : Url) : Prop where
  path_plain : '#' ∉ u.path
  query_plain : ∀ query ∈ u.query, '#' ∉ query
  rooted : u.authority.isSome → Path.Rooted u.path ∨
    (u.path = [] ∧ SchemeKind.ofScheme u.scheme = .foreign)

section Reading

variable {kind : SchemeKind} {scheme text : List Char} {u : Url}

/-- After an authority a path starts at the root, or nothing is read at all. -/
theorem pathAfterAuthority_rooted (kind : SchemeKind) (text : List Char) :
    Path.Rooted (pathAfterAuthority kind text).path ∨
      ((pathAfterAuthority kind text).path = [] ∧ kind = .foreign) := by
  have root : Path.Rooted ['/'] := rfl
  unfold pathAfterAuthority
  split
  · exact .inr ⟨rfl, rfl⟩
  · exact .inl (Path.rooted_read_slash _)
  · exact .inl (root.read _)
  · exact .inl (root.read _)
  · exact .inl (root.read _)

theorem hash_not_mem_pathAfterAuthority (kind : SchemeKind) (text : List Char) :
    '#' ∉ (pathAfterAuthority kind text).path := by
  have root : '#' ∉ ['/'] := by decide
  unfold pathAfterAuthority
  split
  · exact List.not_mem_nil
  · exact Path.hash_not_mem_read List.not_mem_nil _
  · exact Path.hash_not_mem_read root _
  · exact Path.hash_not_mem_read root _
  · exact Path.hash_not_mem_read root _

theorem targetable_parseWithAuthority (read : parseWithAuthority kind scheme text = .ok u)
    (same : SchemeKind.ofScheme scheme = kind) : Targetable u := by
  obtain ⟨_, _, authority, after, path, tail, -, -, -, rfl⟩ := parseWithAuthority_cases read
  refine ⟨?_, fun _ => hash_not_mem_assemble_query, fun _ => ?_⟩
  · exact hash_not_mem_pathAfterAuthority kind path
  · subst same
    exact pathAfterAuthority_rooted _ path

theorem targetable_parseFile (read : parseFile scheme text = .ok u) : Targetable u := by
  obtain ⟨host, start, path, tail, plain, rfl⟩ := parseFile_cases read
  refine ⟨?_, fun _ => hash_not_mem_assemble_query, fun _ => .inl ?_⟩
  · exact Path.hash_not_mem_read plain path
  · rfl

theorem targetable_parseForeign (read : parseForeign scheme text = .ok u)
    (foreign : SchemeKind.ofScheme scheme = .foreign) : Targetable u := by
  rcases parseForeign_cases read with
    ⟨rest, -, read⟩ | ⟨-, front, path, tail, plain, made, rfl⟩
  · exact targetable_parseWithAuthority read foreign
  · refine ⟨?_, fun _ => hash_not_mem_assemble_query, fun authority => by cases authority⟩
    rcases made with rfl | rfl
    · exact Path.hash_not_mem_read (by decide) front
    · exact hash_not_mem_percentEncode (.inl plain)

theorem targetable_parse (read : parse text = .ok u) : Targetable u := by
  obtain ⟨scheme, rest, -, byKind⟩ := parse_cases read
  rcases byKind with ⟨-, read⟩ | ⟨web, read⟩ | ⟨foreign, read⟩
  · exact targetable_parseFile read
  · exact targetable_parseWithAuthority read web
  · exact targetable_parseForeign read foreign

end Reading

section Target

variable {u : Url}

theorem hash_not_mem_target (h : Targetable u) : '#' ∉ u.target := by
  have query : '#' ∉ introduced '?' u.query := by
    cases some : u.query with
    | none => exact List.not_mem_nil
    | some query =>
      have plain := h.query_plain query some
      simp [introduced, plain]
  have path := h.path_plain
  unfold target
  dsimp only
  split
  · decide
  · simp [path, query]

theorem target_of_path (some : u.path ≠ []) : u.target = u.originForm := by
  simp [target, originForm, some]

theorem target_of_nothing (path : u.path = []) (query : u.query = none) :
    u.target = u.originForm := by
  simp [target, originForm, path, query, introduced]

theorem target_of_query {query : List Char} (path : u.path = []) (some : u.query = some query) :
    u.target = '?' :: query := by
  simp [target, path, some, introduced]

/-- A URL with a host has a target in origin form, unless its query stands without a path. -/
theorem rooted_target_iff (h : Targetable u) (authority : u.authority.isSome) :
    Path.Rooted u.target ∧ u.target = u.originForm ↔ ¬ QueryWithoutPath u := by
  constructor
  · rintro ⟨rooted, -⟩ ⟨path, query⟩
    obtain ⟨query, some⟩ := Option.isSome_iff_exists.mp query
    rw [target_of_query path some] at rooted
    cases rooted
  · intro other
    by_cases path : u.path = []
    · have query : u.query = none := by
        by_contra some
        exact other ⟨path, Option.isSome_iff_ne_none.mpr some⟩
      have same := target_of_nothing path query
      refine ⟨?_, same⟩
      rw [same]
      simp [originForm, path, Path.Rooted]
    · have same := target_of_path path
      have rooted : Path.Rooted u.path :=
        (h.rooted authority).resolve_right fun empty => path empty.1
      refine ⟨?_, same⟩
      rw [same, originForm, if_neg path]
      exact rooted.append _

/-- The target of every URL with a host: no fragment, and in origin form just where the URL has a
path or no query. What is left are foreign URLs, whose target starts at the query. -/
theorem target_of_parsed {text : List Char} (read : parse text = .ok u) (host : u.host?.isSome) :
    '#' ∉ u.target ∧
    (Path.Rooted u.target ∧ u.target = u.originForm ↔ ¬ QueryWithoutPath u) ∧
    (QueryWithoutPath u → SchemeKind.ofScheme u.scheme = .foreign ∧
      u.target = introduced '?' u.query) := by
  have h := targetable_parse read
  have authority : u.authority.isSome := by
    unfold host? at host
    cases some : u.authority with
    | none =>
      rw [some] at host
      cases host
    | some authority => rfl
  refine ⟨hash_not_mem_target h, rooted_target_iff h authority, ?_⟩
  rintro ⟨path, query⟩
  obtain ⟨query, some⟩ := Option.isSome_iff_exists.mp query
  constructor
  · rcases h.rooted authority with rooted | ⟨-, foreign⟩
    · rw [path] at rooted
      cases rooted
    · exact foreign
  · rw [target_of_query path some, some]
    rfl

theorem target_of_foreign_path :
    ∃ u, parse "foo://h/p?q#f".toList = .ok u ∧ u.host?.isSome ∧ ¬ QueryWithoutPath u ∧
      '#' ∉ u.target ∧ Path.Rooted u.target ∧ u.target = u.originForm ∧
      u.originForm = "/p?q".toList := by
  let host : Authority := ⟨[], [], some (.domain ['h']), none⟩
  let u : Url := ⟨"foo".toList, some host, "/p".toList, some ['q'], some ['f']⟩
  have read : parse "foo://h/p?q#f".toList = .ok u := rfl
  have path : ¬ QueryWithoutPath u := fun without => by cases without.1
  obtain ⟨plain, origin, -⟩ := target_of_parsed read rfl
  obtain ⟨rooted, same⟩ := origin.mpr path
  exact ⟨u, read, rfl, path, plain, rooted, same, rfl⟩

/-- The root is left out where a foreign URL has a query right after its host. -/
theorem target_without_root :
    ∃ u, parse "foo://h?q".toList = .ok u ∧ u.host?.isSome ∧ QueryWithoutPath u ∧
      u.target = "?q".toList ∧ u.originForm = "/?q".toList ∧
      ¬ (Path.Rooted u.target ∧ u.target = u.originForm) :=
  ⟨⟨"foo".toList, some ⟨[], [], some (.domain ['h']), none⟩, [], some ['q'], none⟩,
    rfl, rfl, ⟨rfl, rfl⟩, rfl, rfl, fun origin => by cases origin.1⟩

end Target

end WebSocketClient.Url
