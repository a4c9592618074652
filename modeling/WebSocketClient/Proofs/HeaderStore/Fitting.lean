import WebSocketClient.Handshake.Start
import WebSocketClient.Proofs.HeaderStore.Copying

/-! # A request store of exactly its size

The size of a request is summed up beforehand, and the request is then written into an arena of that
size piece by piece. Every piece finds the room that it was counted for, so only the memory itself
can be missing. -/
namespace WebSocketClient

namespace Arena

def Takes (a : Arena) (size : Nat) : Prop :=
  ∃ capacity, a.capacity? = some capacity ∧ a.length + size ≤ capacity

variable {a : Arena} {bytes : Bytes} {rest : Nat}

theorem Takes.makeRoom (takes : a.Takes (bytes.length + rest)) :
    a.makeRoom bytes.length = .ok () := by
  obtain ⟨capacity, limit, room⟩ := takes
  rw [makeRoom_of_capacity limit, if_pos]
  omega

theorem Takes.append (takes : a.Takes (bytes.length + rest)) : (a.append bytes).Takes rest := by
  obtain ⟨capacity, limit, room⟩ := takes
  refine ⟨capacity, limit, ?_⟩
  rw [length_append]
  omega

end Arena

namespace HeaderStore

def room : List Header → Nat
  | [] => 0
  | h :: rest => h.name.length + h.value.length + room rest

def Records (s : HeaderStore) (count : Nat) : Prop :=
  (s.records.length + count) * recordSize ≤ s.memory

variable {s : HeaderStore} {rest : Nat}

theorem Records.needed {count : Nat} (records : s.Records (count + 1)) : s.needed ≤ s.memory := by
  unfold Records at records
  unfold HeaderStore.needed
  exact Nat.le_trans (Nat.mul_le_mul_right recordSize (by omega)) records

/-- A push that has memory for its record asks for none. -/
theorem Records.pushed {count : Nat} (records : s.Records (count + 1)) (h : Header) :
    (s.pushed h).Records count := by
  have kept : (s.pushed h).memory = s.memory := if_pos records.needed
  unfold Records at *
  rw [kept, length_records_pushed, Nat.add_assoc, Nat.add_comm 1]
  exact records

theorem push_of_takes {h : Header} (recorded : s.makeRoom = .ok ())
    (takes : s.arena.Takes (h.name.length + h.value.length + rest)) :
    ∃ r, s.push h = ⟨.ok r, s.pushed h⟩ ∧ (s.pushed h).arena.Takes rest := by
  rw [Nat.add_assoc] at takes
  have fits : s.Fits h := ⟨recorded, takes.makeRoom, takes.append.makeRoom⟩
  exact ⟨_, push_of_fits fits, takes.append.append⟩

/-- Headers that were counted fit in. -/
theorem pushAll_of_takes {headers : List Header} (records : s.Records headers.length)
    (takes : s.arena.Takes (room headers)) : (s.pushAll headers).answer = .ok () := by
  induction headers generalizing s with
  | nil => rfl
  | cons h headers ih =>
    have recorded : s.makeRoom = .ok () := s.arena.allocator.ask_of_le records.needed
    obtain ⟨r, pushed, after⟩ := push_of_takes recorded takes
    simp only [pushAll, pushed]
    exact ih (records.pushed h) after

theorem length_pushAll {headers : List Header} (ok : (s.pushAll headers).answer = .ok ()) :
    (s.pushAll headers).store.arena.length = s.arena.length + room headers := by
  induction headers generalizing s with
  | nil => rfl
  | cons h headers ih =>
    rcases push_cases s h with ⟨e, left, -, unpushed⟩ | ⟨-, pushed⟩
    · simp [pushAll, unpushed] at ok
    · simp only [pushAll, pushed] at ok ⊢
      rw [ih ok, length_pushed, room]
      omega

end HeaderStore

namespace Handshake

open HeaderStore

variable {path : Bytes} {headers : List Header}

theorem requestSize_eq (path : Bytes) (headers : List Header) :
    requestSize path headers = path.length + room headers := by
  unfold requestSize
  generalize path.length = size
  induction headers generalizing size with
  | nil => rfl
  | cons h headers ih =>
    rw [List.foldl_cons, ih, room]
    omega

def requestStore (m : Allocator) (path : Bytes) (headers : List Header) : HeaderStore :=
  let size := requestSize path headers
  ⟨⟨[], .fixed size, m.extended 0 size, m⟩, [], m.extended 0 (headers.length * recordSize)⟩

def pathStore (m : Allocator) (path : Bytes) (headers : List Header) : HeaderStore :=
  (requestStore m path headers).grown path

theorem requestStore_takes (m : Allocator) (path : Bytes) (headers : List Header) :
    (requestStore m path headers).arena.Takes (path.length + room headers) := by
  refine ⟨requestSize path headers, rfl, ?_⟩
  have start : (requestStore m path headers).arena.length = 0 := rfl
  rw [start, requestSize_eq]
  omega

theorem pushAll_pathStore (m : Allocator) (path : Bytes) (headers : List Header) :
    ((pathStore m path headers).pushAll headers).answer = .ok () := by
  apply pushAll_of_takes _ (requestStore_takes m path headers).append
  unfold Records
  have unused : (pathStore m path headers).records.length = 0 := rfl
  rw [unused, Nat.zero_add]
  exact m.le_extended 0 _

/-- With the memory there, a request is stored. -/
theorem storeRequest_of_memory {m : Allocator} (octets : m.ask 0 (requestSize path headers) = .ok ())
    (records : m.ask 0 (headers.length * recordSize) = .ok ()) :
    storeRequest m path headers =
      .ok (((pathStore m path headers).pushAll headers).store, ⟨0, path.length⟩) := by
  have written := write_of_room (requestStore_takes m path headers).makeRoom
  have pushed := pushAll_pathStore m path headers
  simp only [requestStore] at written
  simp only [pathStore, requestStore] at pushed
  simp only [storeRequest, Arena.fixed, withCapacity, octets, records, bind, Except.bind, pure,
    Except.pure, written, pathStore, requestStore]
  rw [pushed]
  rfl

theorem storeRequest_of_shortage {m : Allocator}
    (short : m.ask 0 (requestSize path headers) = .error .outOfMemory ∨
      m.ask 0 (headers.length * recordSize) = .error .outOfMemory) :
    storeRequest m path headers = .error .outOfMemory := by
  unfold storeRequest Arena.fixed withCapacity
  rcases m.ask_cases 0 (requestSize path headers) with octets | octets
  · have records := short.resolve_left (by simp [octets])
    simp only [octets, records, bind, Except.bind, pure, Except.pure]
  · rw [octets]
    rfl

/-- A store that a request fills to the last octet. -/
structure Carries (s : HeaderStore) (pathRef : ArenaRef) (path : Bytes) (headers : List Header) :
    Prop where
  reads : s.get? pathRef = some path
  lists : s.headers = headers
  sound : s.Sound
  capacity : s.arena.capacity? = some (path.length + room headers)
  length : s.arena.length = path.length + room headers
  remaining : s.arena.remaining = 0

theorem storeRequest_carries {m : Allocator} {s : HeaderStore} {pathRef : ArenaRef}
    (stored : storeRequest m path headers = .ok (s, pathRef)) : Carries s pathRef path headers := by
  have enough : m.ask 0 (requestSize path headers) = .ok () ∧
      m.ask 0 (headers.length * recordSize) = .ok () := by
    rcases m.ask_cases 0 (requestSize path headers) with octets | short
    · rcases m.ask_cases 0 (headers.length * recordSize) with records | short
      · exact ⟨octets, records⟩
      · rw [storeRequest_of_shortage (.inr short)] at stored
        cases stored
    · rw [storeRequest_of_shortage (.inl short)] at stored
      cases stored
  obtain ⟨octets, records⟩ := enough
  rw [storeRequest_of_memory octets records] at stored
  cases stored
  have ok := pushAll_pathStore m path headers
  have sound : (pathStore m path headers).Sound := fun _ => nofun
  have grows := pushAll_grows (pathStore m path headers) headers
  have capacity : ((pathStore m path headers).pushAll headers).store.arena.capacity? =
      some (path.length + room headers) := by
    rw [grows.capacity?, ← requestSize_eq]
    rfl
  have start : (pathStore m path headers).arena.length = path.length := by
    simp [pathStore, requestStore, grown, Arena.length, Arena.append]
  have length := length_pushAll ok
  rw [start] at length
  refine
    { reads := ?_, lists := ?_, sound := sound.pushAll headers, capacity := capacity,
      length := length, remaining := ?_ }
  · exact grows.get? ((requestStore m path headers).arena.get?_written path)
  · rw [headers_pushAll sound, kept_of_ok ok]
    rfl
  · rw [Arena.remaining, Arena.capacity, capacity, length, Option.getD_some, Nat.sub_self]

end Handshake

end WebSocketClient
