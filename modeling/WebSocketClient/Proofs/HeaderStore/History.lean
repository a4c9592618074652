import WebSocketClient.Proofs.HeaderStore.Copying

/-! # What a header store keeps

A store is changed by pushes and by plain writes, in any order, and each of them may fail. The store
keeps the headers whose pushes succeed, in order, and every reference that it ever answered stays
good. All that a failed call can change is the room in the arena: a name may have been copied in
front of a value that did not fit. -/
namespace WebSocketClient.HeaderStore

inductive Made : HeaderStore → Prop
  | empty (m : Allocator) : Made (empty m)
  | withCapacity {arena : Arena} {count : Nat} {s : HeaderStore}
      (made : withCapacity arena count = .ok s) : Made s

inductive Step
  | push (header : Header)
  | write (bytes : Bytes)
deriving DecidableEq

def perform (s : HeaderStore) : Step → HeaderStore
  | .push h => (s.push h).store
  | .write bytes => (s.write bytes).store

def performAll (s : HeaderStore) (steps : List Step) : HeaderStore := steps.foldl perform s

def error? (s : HeaderStore) : Step → Option Error
  | .push h =>
    match (s.push h).answer with
    | .ok _ => none
    | .error e => some e
  | .write bytes =>
    match (s.write bytes).answer with
    | .ok _ => none
    | .error e => some e

def added? (s : HeaderStore) : Step → Option Header
  | .push h => if (s.push h).answer.isOk then some h else none
  | .write _ => none

def added (s : HeaderStore) : List Step → List Header
  | [] => []
  | step :: rest => (s.added? step).toList ++ (s.perform step).added rest

/-- The references that a call answers, with the octets that they were made for. -/
def answered (s : HeaderStore) : Step → List (ArenaRef × Bytes)
  | .push h =>
    match (s.push h).answer with
    | .ok r => [(r.name, h.name), (r.value, h.value)]
    | .error _ => []
  | .write bytes =>
    match (s.write bytes).answer with
    | .ok r => [(r, bytes)]
    | .error _ => []

/-- There is room for a record and for a name, but not for the value that goes with it. -/
def Overruns (s : HeaderStore) (h : Header) : Prop :=
  s.makeRoom = .ok () ∧ s.arena.makeRoom h.name.length = .ok () ∧
    (s.arena.append h.name).makeRoom h.value.length ≠ .ok ()

variable {s : HeaderStore}

theorem performAll_append (s : HeaderStore) (first rest : List Step) :
    s.performAll (first ++ rest) = (s.performAll first).performAll rest := List.foldl_append

theorem performAll_cons (s : HeaderStore) (step : Step) (rest : List Step) :
    s.performAll (step :: rest) = (s.perform step).performAll rest := rfl

@[simp] theorem length_headers (s : HeaderStore) : s.headers.length = s.length :=
  List.length_map _

theorem Made.headers (made : s.Made) : s.Sound ∧ s.headers = [] := by
  have unused : s.records = [] := by
    cases made with
    | empty => rfl
    | withCapacity made =>
      obtain ⟨-, -, made⟩ := Error.bind_eq_ok.mp made
      cases made
      rfl
  constructor
  · intro r hr
    rw [unused] at hr
    cases hr
  · rw [HeaderStore.headers, unused, List.map_nil]

theorem get?_pushed_name (s : HeaderStore) (h : Header) :
    (s.pushed h).get? ⟨s.arena.length, h.name.length⟩ = some h.name := by
  apply ((s.arena.append h.name).grows_append h.value).get?
  exact s.arena.get?_written h.name

theorem get?_pushed_value (s : HeaderStore) (h : Header) :
    (s.pushed h).get? ⟨s.arena.length + h.name.length, h.value.length⟩ = some h.value := by
  have written := (s.arena.append h.name).get?_written h.value
  rwa [Arena.length_append] at written

theorem perform_grows (s : HeaderStore) (step : Step) : s.arena.Grows (s.perform step).arena := by
  cases step with
  | push h =>
    rcases s.push_cases h with ⟨e, left, fails, failed⟩ | ⟨-, pushed⟩
    · rw [perform, failed]
      exact fails.spends.grows
    · rw [perform, pushed]
      exact s.pushed_grows h
  | write bytes =>
    rcases s.write_cases bytes with ⟨e, -, failed⟩ | ⟨-, written⟩
    · rw [perform, failed]
      exact .refl _
    · rw [perform, written]
      exact s.arena.grows_append bytes

theorem performAll_grows (s : HeaderStore) (steps : List Step) :
    s.arena.Grows (s.performAll steps).arena := by
  induction steps generalizing s with
  | nil => exact .refl _
  | cons step rest ih =>
    rw [performAll_cons]
    exact (s.perform_grows step).trans (ih _)

/-- A call adds the header of a push that succeeds, and nothing else. -/
theorem Sound.perform (sound : s.Sound) (step : Step) :
    (s.perform step).Sound ∧ (s.perform step).headers = s.headers ++ (s.added? step).toList := by
  cases step with
  | push h =>
    rcases s.push_cases h with ⟨e, left, fails, failed⟩ | ⟨-, pushed⟩
    · simp only [HeaderStore.perform, added?, failed]
      exact ⟨fails.spends.sound sound,
        (fails.spends.headers sound).trans (List.append_nil _).symm⟩
    · simp only [HeaderStore.perform, added?, pushed]
      exact ⟨sound.pushed h, headers_pushed sound h⟩
  | write bytes =>
    have unadded : s.headers ++ (s.added? (.write bytes)).toList = s.headers := List.append_nil _
    rw [unadded]
    rcases s.write_cases bytes with ⟨e, -, failed⟩ | ⟨-, written⟩
    · rw [HeaderStore.perform, failed]
      exact ⟨sound, rfl⟩
    · rw [HeaderStore.perform, written]
      exact ⟨(Spends.grown s bytes).sound sound, (Spends.grown s bytes).headers sound⟩

theorem Sound.performAll (sound : s.Sound) (steps : List Step) :
    (s.performAll steps).Sound ∧ (s.performAll steps).headers = s.headers ++ s.added steps := by
  induction steps generalizing s with
  | nil => exact ⟨sound, (List.append_nil _).symm⟩
  | cons step rest ih =>
    obtain ⟨still, headers⟩ := sound.perform step
    obtain ⟨after, later⟩ := ih still
    refine ⟨after, ?_⟩
    rw [performAll_cons, later, headers, added, List.append_assoc]

theorem get?_answered {step : Step} {r : ArenaRef} {bytes : Bytes}
    (mem : (r, bytes) ∈ s.answered step) : (s.perform step).get? r = some bytes := by
  cases step with
  | push h =>
    rcases s.push_cases h with ⟨e, left, -, failed⟩ | ⟨-, pushed⟩
    · simp [answered, failed] at mem
    · rw [perform, pushed]
      simp only [answered, pushed, List.mem_cons, List.not_mem_nil, or_false] at mem
      rcases mem with name | value
      · cases name
        exact s.get?_pushed_name h
      · cases value
        exact s.get?_pushed_value h
  | write octets =>
    rcases s.write_cases octets with ⟨e, -, failed⟩ | ⟨-, written⟩
    · simp [answered, failed] at mem
    · rw [perform, written]
      simp only [answered, written, List.mem_singleton] at mem
      cases mem
      exact s.arena.get?_written bytes

/-- A call that fails adds no header. -/
theorem added?_of_error {step : Step} {error : Error} (failed : s.error? step = some error) :
    s.added? step = none := by
  cases step with
  | push h =>
    rcases s.push_cases h with ⟨e, left, -, refused⟩ | ⟨-, pushed⟩
    · simp [added?, refused, Except.isOk, Except.toBool]
    · simp [error?, pushed] at failed
  | write bytes => rfl

theorem Fails.not_fits {h : Header} {e : Error} {left : HeaderStore} (fails : s.Fails h e left) :
    ¬ s.Fits h := by
  rintro ⟨recorded, named, valued⟩
  cases fails with
  | unrecorded full =>
    rw [recorded] at full
    cases full
  | unnamed _ full =>
    rw [named] at full
    cases full
  | unvalued _ _ full =>
    rw [valued] at full
    cases full

theorem Fails.arena_of_overruns {h : Header} {e : Error} {left : HeaderStore}
    (fails : s.Fails h e left) (overruns : s.Overruns h) : left.arena = s.arena.append h.name := by
  obtain ⟨recorded, named, -⟩ := overruns
  cases fails with
  | unrecorded full =>
    rw [recorded] at full
    cases full
  | unnamed _ full =>
    rw [named] at full
    cases full
  | unvalued => rfl

theorem Fails.arena_of_not_overruns {h : Header} {e : Error} {left : HeaderStore}
    (fails : s.Fails h e left) (spared : ¬ s.Overruns h) : left.arena = s.arena := by
  cases fails with
  | unrecorded | unnamed => rfl
  | unvalued recorded named full =>
    refine absurd ⟨recorded, named, ?_⟩ spared
    rw [full]
    nofun

theorem push_ok_iff (s : HeaderStore) (h : Header) :
    (∃ r, (s.push h).answer = .ok r) ↔ s.Fits h := by
  rcases s.push_cases h with ⟨e, left, fails, failed⟩ | ⟨fits, pushed⟩
  · rw [failed]
    refine iff_of_false ?_ fails.not_fits
    rintro ⟨r, ok⟩
    cases ok
  · rw [pushed]
    exact iff_of_true ⟨_, rfl⟩ fits

theorem write_ok_iff (s : HeaderStore) (bytes : Bytes) :
    (∃ r, (s.write bytes).answer = .ok r) ↔ s.arena.makeRoom bytes.length = .ok () := by
  rcases s.write_cases bytes with ⟨e, full, failed⟩ | ⟨room, written⟩
  · rw [failed, full]
    refine iff_of_false ?_ nofun
    rintro ⟨r, ok⟩
    cases ok
  · rw [written]
    exact iff_of_true ⟨_, rfl⟩ room

/-- What is true of a store after any calls. A call that fails takes no room, but for a push whose
name fits and whose value does not. -/
structure KeepsHeaders (s : HeaderStore) (steps : List Step) : Prop where
  headers : (s.performAll steps).headers = s.added steps
  length : (s.performAll steps).length = (s.added steps).length
  sound : (s.performAll steps).Sound
  resolves : ∀ first step rest, steps = first ++ step :: rest →
    ∀ r bytes, (r, bytes) ∈ (s.performAll first).answered step →
      (s.performAll steps).get? r = some bytes
  unchanged : ∀ step error, (s.performAll steps).error? step = some error →
    ((s.performAll steps).perform step).headers = (s.performAll steps).headers ∧
      ((s.performAll steps).perform step).length = (s.performAll steps).length ∧
      ∀ r bytes, (s.performAll steps).get? r = some bytes →
        ((s.performAll steps).perform step).get? r = some bytes
  pushes : ∀ h, (∃ r, ((s.performAll steps).push h).answer = .ok r) ↔ (s.performAll steps).Fits h
  writes : ∀ bytes, (∃ r, ((s.performAll steps).write bytes).answer = .ok r) ↔
    (s.performAll steps).arena.makeRoom bytes.length = .ok ()
  overruns : ∀ h, (s.performAll steps).Overruns h →
    (∃ error, ((s.performAll steps).push h).answer = .error error) ∧
      ((s.performAll steps).push h).store.arena = (s.performAll steps).arena.append h.name
  spares : ∀ h error, ((s.performAll steps).push h).answer = .error error →
    ¬ (s.performAll steps).Overruns h →
      ((s.performAll steps).push h).store.arena = (s.performAll steps).arena
  refused : ∀ bytes error, ((s.performAll steps).write bytes).answer = .error error →
    ((s.performAll steps).write bytes).store.arena = (s.performAll steps).arena

/-- A store keeps exactly the headers that were pushed, and all its references, whatever fails. -/
theorem keeps_what_was_pushed (made : s.Made) (steps : List Step) : KeepsHeaders s steps := by
  obtain ⟨fresh, none⟩ := made.headers
  obtain ⟨sound, headers⟩ := fresh.performAll steps
  rw [none, List.nil_append] at headers
  refine
    { headers := headers, length := ?_, sound := sound, resolves := ?_, unchanged := ?_,
      pushes := push_ok_iff _, writes := write_ok_iff _, overruns := ?_, spares := ?_,
      refused := ?_ }
  · rw [← headers, length_headers]
  · rintro first step rest rfl r bytes mem
    rw [performAll_append, performAll_cons]
    exact (performAll_grows _ rest).get? (get?_answered mem)
  · intro step error failed
    obtain ⟨-, same⟩ := sound.perform step
    rw [added?_of_error failed, Option.toList_none, List.append_nil] at same
    refine ⟨same, ?_, fun r bytes reads => (perform_grows _ step).get? reads⟩
    rw [← length_headers, same, length_headers]
  · intro h overruns
    rcases push_cases (s.performAll steps) h with ⟨e, left, fails, failed⟩ | ⟨fits, -⟩
    · rw [failed]
      exact ⟨⟨e, rfl⟩, fails.arena_of_overruns overruns⟩
    · exact absurd fits.valued overruns.2.2
  · intro h error refused spared
    rcases push_cases (s.performAll steps) h with ⟨e, left, fails, failed⟩ | ⟨-, pushed⟩
    · rw [failed]
      exact fails.arena_of_not_overruns spared
    · rw [pushed] at refused
      cases refused
  · intro bytes error refused
    rcases write_cases (s.performAll steps) bytes with ⟨e, -, failed⟩ | ⟨-, written⟩
    · rw [failed]
    · rw [written] at refused
      cases refused

/-- A name that was copied in vain takes room, but later headers are kept all the same. -/
theorem later_push_after_overrun :
    let arena : Arena := ⟨[], .fixed 8, 8, .doubling 100⟩
    let s : HeaderStore := ⟨arena, [], 32⟩
    let steps : List Step :=
      [.push ⟨[1, 2, 3], [4, 5, 6, 7, 8, 9]⟩, .push ⟨[10], [11, 12]⟩, .write [13, 14, 15],
        .push ⟨[], []⟩]
    s.Made ∧
      (s.performAll steps).headers = [⟨[10], [11, 12]⟩, ⟨[], []⟩] ∧
      (s.performAll steps).get? ⟨4, 2⟩ = some [11, 12] ∧
      ((s.performAll steps).push ⟨[16], [17, 18]⟩).store.arena.length = 7 := by
  intro arena s steps
  have made : s.Made := @Made.withCapacity arena 1 s rfl
  have kept := keeps_what_was_pushed made steps
  refine ⟨made, ?_, ?_, ?_⟩
  · rw [kept.headers]
    decide +kernel
  · exact kept.resolves [steps[0]] steps[1] (steps.drop 2) rfl ⟨4, 2⟩ [11, 12] (by decide +kernel)
  · have room : (s.performAll steps).arena.makeRoom 1 = .ok () := by decide +kernel
    have overruns : (s.performAll steps).Overruns ⟨[16], [17, 18]⟩ :=
      ⟨by decide +kernel, room, by decide +kernel⟩
    rw [(kept.overruns _ overruns).2]
    decide +kernel

end WebSocketClient.HeaderStore
