import WebSocketClient.HeaderStore
import WebSocketClient.Proofs.Arena.References

/-! # What copying keeps

An arena only grows at its end, so the ranges that it holds read the same after every write. A push
adds its header at the end or leaves the headers alone. Pushing a batch therefore keeps the headers
in front of the first one that does not fit, however the batch was put together. -/
namespace WebSocketClient

namespace HeaderStore

/-- Every record names ranges that the arena has. -/
def Sound (s : HeaderStore) : Prop :=
  ∀ r ∈ s.records, s.arena.Holds r.name ∧ s.arena.Holds r.value

def grown (s : HeaderStore) (bytes : Bytes) : HeaderStore :=
  { s with arena := s.arena.append bytes }

/-- One store has come out of another, with more room taken and nothing recorded. -/
structure Spends (s t : HeaderStore) : Prop where
  records : t.records = s.records
  grows : s.arena.Grows t.arena

variable {s t : HeaderStore}

namespace Spends

theorem refl (s : HeaderStore) : s.Spends s := ⟨rfl, .refl _⟩

theorem widened (s : HeaderStore) : s.Spends s.widened := ⟨rfl, .refl _⟩

theorem grown (s : HeaderStore) (bytes : Bytes) : s.Spends (s.grown bytes) :=
  ⟨rfl, s.arena.grows_append bytes⟩

theorem trans {u : HeaderStore} (h : s.Spends t) (k : t.Spends u) : s.Spends u :=
  ⟨k.records.trans h.records, h.grows.trans k.grows⟩

theorem sound (h : s.Spends t) (sound : s.Sound) : t.Sound := by
  intro r mem
  rw [h.records] at mem
  obtain ⟨name, value⟩ := sound r mem
  exact ⟨h.grows.holds name, h.grows.holds value⟩

theorem headers (h : s.Spends t) (sound : s.Sound) : t.headers = s.headers := by
  unfold HeaderStore.headers
  rw [h.records]
  apply List.map_congr_left
  intro r mem
  obtain ⟨name, value⟩ := sound r mem
  rw [h.grows.get_eq name, h.grows.get_eq value]

end Spends

theorem write_cases (s : HeaderStore) (bytes : Bytes) :
    (∃ e, s.arena.makeRoom bytes.length = .error e ∧ s.write bytes = ⟨.error e, s⟩) ∨
      s.arena.makeRoom bytes.length = .ok () ∧
        s.write bytes = ⟨.ok ⟨s.arena.length, bytes.length⟩, s.grown bytes⟩ := by
  rcases s.arena.write_cases bytes with ⟨e, full, refused⟩ | ⟨room, written⟩
  · refine .inl ⟨e, full, ?_⟩
    rw [write, refused]
  · refine .inr ⟨room, ?_⟩
    rw [write, written]
    rfl

def pushed (s : HeaderStore) (h : Header) : HeaderStore :=
  ((s.widened.grown h.name).grown h.value).record
    ⟨⟨s.arena.length, h.name.length⟩, ⟨s.arena.length + h.name.length, h.value.length⟩⟩

theorem length_records_pushed (s : HeaderStore) (h : Header) :
    (s.pushed h).records.length = s.records.length + 1 := by
  simp [pushed, record, grown, widened]

structure Fits (s : HeaderStore) (h : Header) : Prop where
  recorded : s.makeRoom = .ok ()
  named : s.arena.makeRoom h.name.length = .ok ()
  valued : (s.arena.append h.name).makeRoom h.value.length = .ok ()

/-- The ways a push fails: with an error, and with the store that it leaves. -/
inductive Fails (s : HeaderStore) (h : Header) : Error → HeaderStore → Prop
  | unrecorded {e} (full : s.makeRoom = .error e) : Fails s h e s
  | unnamed {e} (recorded : s.makeRoom = .ok ())
      (full : s.arena.makeRoom h.name.length = .error e) : Fails s h e s.widened
  | unvalued {e} (recorded : s.makeRoom = .ok ()) (named : s.arena.makeRoom h.name.length = .ok ())
      (full : (s.arena.append h.name).makeRoom h.value.length = .error e) :
      Fails s h e (s.widened.grown h.name)

theorem Fails.spends {h : Header} {e : Error} (fails : s.Fails h e t) : s.Spends t := by
  cases fails with
  | unrecorded => exact .refl s
  | unnamed => exact .widened s
  | unvalued => exact (Spends.widened s).trans (.grown _ h.name)

theorem write_of_room {bytes : Bytes} (room : s.arena.makeRoom bytes.length = .ok ()) :
    s.write bytes = ⟨.ok ⟨s.arena.length, bytes.length⟩, s.grown bytes⟩ := by
  rcases write_cases s bytes with ⟨e, full, -⟩ | ⟨-, written⟩
  · rw [room] at full
    cases full
  · exact written

theorem push_of_fits {h : Header} (fits : s.Fits h) :
    s.push h = ⟨.ok ⟨⟨s.arena.length, h.name.length⟩,
      ⟨s.arena.length + h.name.length, h.value.length⟩⟩, s.pushed h⟩ := by
  have named := write_of_room (s := s.widened) fits.named
  have valued := write_of_room (s := s.widened.grown h.name) fits.valued
  have start : (s.widened.grown h.name).arena.length = s.arena.length + h.name.length :=
    Arena.length_append ..
  rw [start] at valued
  simp only [push, fits.recorded, named, valued, pushed]
  rfl

theorem push_cases (s : HeaderStore) (h : Header) :
    (∃ e left, s.Fails h e left ∧ s.push h = ⟨.error e, left⟩) ∨
      s.Fits h ∧ s.push h = ⟨.ok ⟨⟨s.arena.length, h.name.length⟩,
        ⟨s.arena.length + h.name.length, h.value.length⟩⟩, s.pushed h⟩ := by
  cases recorded : s.makeRoom with
  | error e => exact .inl ⟨e, s, .unrecorded recorded, by simp only [push, recorded]⟩
  | ok =>
    rcases write_cases s.widened h.name with ⟨e, full, unwritten⟩ | ⟨room, named⟩
    · refine .inl ⟨e, s.widened, .unnamed recorded full, ?_⟩
      simp only [push, recorded, unwritten]
    · rcases write_cases (s.widened.grown h.name) h.value with ⟨e, full, unwritten⟩ | ⟨valued, -⟩
      · refine .inl ⟨e, s.widened.grown h.name, .unvalued recorded room full, ?_⟩
        simp only [push, recorded, named, unwritten]
      · have fits : s.Fits h := ⟨recorded, room, valued⟩
        exact .inr ⟨fits, push_of_fits fits⟩

/-- What a push makes before it records the header. -/
theorem spends_unrecorded (s : HeaderStore) (h : Header) :
    s.Spends ((s.widened.grown h.name).grown h.value) :=
  ((Spends.widened s).trans (.grown _ h.name)).trans (.grown _ h.value)

theorem Sound.pushed (sound : s.Sound) (h : Header) : (s.pushed h).Sound := by
  intro r hr
  rcases List.mem_append.mp hr with old | new
  · exact (s.spends_unrecorded h).sound sound r old
  · obtain rfl := List.mem_singleton.mp new
    have name := Arena.holds_written s.arena h.name
    have value := Arena.holds_written (s.arena.append h.name) h.value
    rw [Arena.length_append] at value
    exact ⟨(Arena.grows_append _ h.value).holds name, value⟩

theorem headers_pushed (sound : s.Sound) (h : Header) :
    (s.pushed h).headers = s.headers ++ [h] := by
  have old := (s.spends_unrecorded h).headers sound
  have name := (Arena.grows_append _ h.value).get_eq (Arena.holds_written s.arena h.name)
  rw [Arena.get_written] at name
  have value := Arena.get_written (s.arena.append h.name) h.value
  rw [Arena.length_append] at value
  rw [← old]
  simp only [headers, HeaderStore.pushed, record, grown, widened, List.map_append, List.map_cons,
    List.map_nil, name, value]

theorem pushed_grows (s : HeaderStore) (h : Header) : s.arena.Grows (s.pushed h).arena :=
  (s.spends_unrecorded h).grows

theorem length_pushed (s : HeaderStore) (h : Header) :
    (s.pushed h).arena.length = s.arena.length + h.name.length + h.value.length := by
  simp [pushed, record, grown, widened]

theorem pushAll_grows (s : HeaderStore) (batch : List Header) :
    s.arena.Grows (s.pushAll batch).store.arena := by
  induction batch generalizing s with
  | nil => exact .refl _
  | cons h rest ih =>
    rcases push_cases s h with ⟨e, left, fails, unpushed⟩ | ⟨-, pushed⟩
    · simp only [pushAll, unpushed]
      exact fails.spends.grows
    · simp only [pushAll, pushed]
      exact (s.pushed_grows h).trans (ih _)

/-- The headers of a batch in front of the first one that cannot be pushed. -/
def kept (s : HeaderStore) : List Header → List Header
  | [] => []
  | h :: rest =>
    match s.push h with
    | ⟨.error _, _⟩ => []
    | ⟨.ok _, after⟩ => h :: after.kept rest

theorem Sound.pushAll (sound : s.Sound) (batch : List Header) : (s.pushAll batch).store.Sound := by
  induction batch generalizing s with
  | nil => exact sound
  | cons h rest ih =>
    rcases push_cases s h with ⟨e, left, fails, unpushed⟩ | ⟨-, pushed⟩
    · simpa [HeaderStore.pushAll, unpushed] using fails.spends.sound sound
    · simpa [HeaderStore.pushAll, pushed] using ih (sound.pushed h)

/-- Of a batch exactly the kept headers are stored, octet for octet and in order. -/
theorem headers_pushAll (sound : s.Sound) (batch : List Header) :
    (s.pushAll batch).store.headers = s.headers ++ s.kept batch := by
  induction batch generalizing s with
  | nil => simp [pushAll, kept]
  | cons h rest ih =>
    rcases push_cases s h with ⟨e, left, fails, unpushed⟩ | ⟨-, pushed⟩
    · simp [pushAll, kept, unpushed, fails.spends.headers sound]
    · simp [pushAll, kept, pushed, ih (sound.pushed h), headers_pushed sound]

theorem kept_of_ok {batch : List Header} (ok : (s.pushAll batch).answer = .ok ()) :
    s.kept batch = batch := by
  induction batch generalizing s with
  | nil => rfl
  | cons h rest ih =>
    rcases push_cases s h with ⟨e, left, -, unpushed⟩ | ⟨-, pushed⟩
    · simp [pushAll, unpushed] at ok
    · simp only [pushAll, pushed] at ok
      simp [kept, pushed, ih ok]

/-- What is not kept begins with a header that cannot be pushed. -/
theorem kept_of_error {batch : List Header} {error : Error}
    (failed : (s.pushAll batch).answer = .error error) :
    ∃ h rest, batch = s.kept batch ++ h :: rest ∧
      ((s.pushAll (s.kept batch)).store.push h).answer = .error error := by
  induction batch generalizing s with
  | nil => cases failed
  | cons h rest ih =>
    rcases push_cases s h with ⟨e, left, -, unpushed⟩ | ⟨-, pushed⟩
    · refine ⟨h, rest, by simp [kept, unpushed], ?_⟩
      simpa [pushAll, kept, unpushed] using failed
    · simp only [pushAll, pushed] at failed
      obtain ⟨first, later, split, refused⟩ := ih failed
      refine ⟨first, later, ?_, ?_⟩
      · simp only [kept, pushed, List.cons_append]
        rw [← split]
      · simpa [kept, pushAll, pushed] using refused

/-- A batch may be pushed in two parts. -/
theorem pushAll_append {first : List Header} (ok : (s.pushAll first).answer = .ok ())
    (second : List Header) :
    s.pushAll (first ++ second) = (s.pushAll first).store.pushAll second := by
  induction first generalizing s with
  | nil => rfl
  | cons h rest ih =>
    rcases push_cases s h with ⟨e, left, -, unpushed⟩ | ⟨-, pushed⟩
    · simp [pushAll, unpushed] at ok
    · simp only [pushAll, pushed] at ok
      simp only [List.cons_append, pushAll, pushed]
      exact ih ok

end HeaderStore

end WebSocketClient
