import Mathlib.Data.List.Induction
import WebSocketClient.Arena

/-! # Arena references

An arena only grows at its end, so a range that it has reads the same ever after. The ranges of the
writes that succeed lie one after the other and fill the buffer. A write that fails leaves the arena
as it was, and no arena holds more than its capacity. -/
namespace WebSocketClient

namespace Allocator

/-- Memory is had, or there is none. -/
theorem ask_cases (m : Allocator) (held needed : Nat) :
    m.ask held needed = .ok () ∨ m.ask held needed = .error .outOfMemory := by
  unfold ask
  split
  · exact .inl rfl
  · exact .inr rfl

theorem ask_of_le (m : Allocator) {held needed : Nat} (enough : needed ≤ held) :
    m.ask held needed = .ok () := if_pos (.inl enough)

theorem le_extended (m : Allocator) (held needed : Nat) : needed ≤ m.extended held needed := by
  unfold extended
  split
  · assumption
  · cases given : m.extend? held needed with
    | none => exact Nat.le_refl _
    | some got => exact m.le_extend given

end Allocator

namespace ArenaRef

def Covers (r : ArenaRef) (i : Nat) : Prop := r.offset ≤ i ∧ i < r.offset + r.length

/-- Ranges one after the other, without a gap, from a start to a finish. -/
inductive Laid : (start finish : Nat) → List ArenaRef → Prop
  | nil (start : Nat) : Laid start start []
  | cons {r : ArenaRef} {finish : Nat} {rest : List ArenaRef}
      (later : Laid (r.offset + r.length) finish rest) : Laid r.offset finish (r :: rest)

namespace Laid

variable {start finish : Nat} {refs : List ArenaRef}

theorem start_le_offset (h : Laid start finish refs) {r : ArenaRef} (mem : r ∈ refs) :
    start ≤ r.offset := by
  induction h with
  | nil => cases mem
  | cons later ih =>
    rcases List.mem_cons.mp mem with rfl | other
    · exact Nat.le_refl _
    · have := ih other
      omega

/-- Every octet between start and finish is in exactly one of the ranges. -/
theorem existsUnique_covers (h : Laid start finish refs) {i : Nat} (low : start ≤ i)
    (high : i < finish) : ∃! k : Nat, ∃ r : ArenaRef, refs[k]? = some r ∧ r.Covers i := by
  induction h with
  | nil => omega
  | @cons first finish rest later ih =>
    by_cases inside : i < first.offset + first.length
    · refine ⟨0, ⟨first, rfl, low, inside⟩, ?_⟩
      rintro k ⟨r, found, covers⟩
      cases k with
      | zero => rfl
      | succ k =>
        have behind := later.start_le_offset (List.mem_of_getElem? found)
        have := covers.1
        omega
    · obtain ⟨k, there, only⟩ := ih (by omega) high
      refine ⟨k + 1, there, ?_⟩
      rintro j ⟨r, found, covers⟩
      cases j with
      | zero =>
        cases found
        exact absurd covers.2 inside
      | succ j => rw [only j ⟨r, found, covers⟩]

end Laid

end ArenaRef

namespace Arena

def Holds (a : Arena) (r : ArenaRef) : Prop := r.offset + r.length ≤ a.length

/-- One arena has come out of another by writes at its end. -/
def Grows (a b : Arena) : Prop :=
  ∃ bytes memory, b = { a with buffer := a.buffer ++ bytes, memory }

def Bounded (a : Arena) : Prop := a.length ≤ a.capacity

def Origin.limit? : Origin → Option Nat
  | .fixed capacity => some capacity
  | _ => none

section Growth

variable {a b c : Arena} {r : ArenaRef} {found : Bytes}

@[simp] theorem length_append (a : Arena) (bytes : Bytes) :
    (a.append bytes).length = a.length + bytes.length := List.length_append

@[simp] theorem append_capacity? (a : Arena) (bytes : Bytes) :
    (a.append bytes).capacity? = a.capacity? := rfl

theorem grows_append (a : Arena) (bytes : Bytes) : a.Grows (a.append bytes) := ⟨bytes, _, rfl⟩

namespace Grows

theorem refl (a : Arena) : a.Grows a := ⟨[], a.memory, by rw [List.append_nil]⟩

theorem trans (h : a.Grows b) (k : b.Grows c) : a.Grows c := by
  obtain ⟨first, middle, rfl⟩ := h
  obtain ⟨rest, memory, rfl⟩ := k
  exact ⟨first ++ rest, memory, by rw [List.append_assoc]⟩

theorem capacity? (h : a.Grows b) : b.capacity? = a.capacity? := by
  obtain ⟨bytes, memory, rfl⟩ := h
  rfl

theorem holds (h : a.Grows b) (held : a.Holds r) : b.Holds r := by
  obtain ⟨bytes, memory, rfl⟩ := h
  unfold Holds length at *
  rw [List.length_append]
  omega

theorem get?_eq (h : a.Grows b) (held : a.Holds r) : b.get? r = a.get? r := by
  have still := h.holds held
  obtain ⟨bytes, memory, rfl⟩ := h
  unfold Holds at held still
  rw [Arena.get?, Arena.get?, if_pos held, if_pos still]
  change r.offset + r.length ≤ a.buffer.length at held
  have start : r.offset ≤ a.buffer.length := by omega
  have room : r.length ≤ (a.buffer.drop r.offset).length := by
    rw [List.length_drop]
    omega
  rw [List.drop_append_of_le_length start, List.take_append_of_le_length room]

theorem get_eq (h : a.Grows b) (held : a.Holds r) : b.get r = a.get r := by
  rw [Arena.get, Arena.get, h.get?_eq held]

/-- What a reference reads it reads for good. -/
theorem get? (h : a.Grows b) (reads : a.get? r = some found) : b.get? r = some found := by
  have held : a.Holds r := by
    unfold Arena.get? at reads
    split at reads
    · assumption
    · cases reads
  rw [h.get?_eq held, reads]

end Grows

theorem holds_written (a : Arena) (bytes : Bytes) :
    (a.append bytes).Holds ⟨a.length, bytes.length⟩ :=
  Nat.le_of_eq (length_append a bytes).symm

/-- What was written last. -/
theorem get?_written (a : Arena) (bytes : Bytes) :
    (a.append bytes).get? ⟨a.length, bytes.length⟩ = some bytes := by
  have room := holds_written a bytes
  unfold Holds at room
  rw [get?, if_pos room]
  simp [Arena.append, length]

theorem get_written (a : Arena) (bytes : Bytes) :
    (a.append bytes).get ⟨a.length, bytes.length⟩ = bytes := by
  rw [get, get?_written]
  rfl

end Growth

section Writes

variable {a : Arena}

/-- A write is refused, or adds to the end. -/
theorem write_cases (a : Arena) (bytes : Bytes) :
    (∃ e, a.makeRoom bytes.length = .error e ∧ a.write bytes = (.error e, a)) ∨
      a.makeRoom bytes.length = .ok () ∧
        a.write bytes = (.ok ⟨a.length, bytes.length⟩, a.append bytes) := by
  unfold write
  cases a.makeRoom bytes.length with
  | error e => exact .inl ⟨e, rfl, rfl⟩
  | ok => exact .inr ⟨rfl, rfl⟩

/-- The answer to a write is decided by the room that there is. -/
theorem write_answer (a : Arena) (bytes : Bytes) :
    (a.write bytes).1 = (a.makeRoom bytes.length).map fun _ => ⟨a.length, bytes.length⟩ := by
  rcases a.write_cases bytes with ⟨e, full, refused⟩ | ⟨room, written⟩
  · rw [refused, full]
    rfl
  · rw [written, room]
    rfl

theorem makeRoom_of_growable (unlimited : a.capacity? = none) (size : Nat) :
    a.makeRoom size = a.allocator.ask a.memory (a.length + size) := by
  unfold capacity? at unlimited
  unfold makeRoom
  cases mode : a.mode with
  | fixed capacity =>
    rw [mode] at unlimited
    cases unlimited
  | growable => rfl

theorem makeRoom_of_capacity {capacity : Nat} (limit : a.capacity? = some capacity) (size : Nat) :
    a.makeRoom size =
      if size ≤ capacity - a.length then .ok ()
      else .error (.outOfSpace size (capacity - a.length)) := by
  have left : a.remaining = capacity - a.length := by
    rw [remaining, Arena.capacity, limit, Option.getD_some]
  unfold capacity? at limit
  unfold makeRoom
  cases mode : a.mode with
  | fixed found =>
    simp only [left]
    by_cases fits : size ≤ capacity - a.length
    · rw [if_pos fits, if_neg (by omega)]
    · rw [if_neg fits, if_pos (by omega)]
  | growable =>
    rw [mode] at limit
    cases limit

/-- Where enough remains a write succeeds, and no memory is asked for. -/
theorem makeRoom_of_remaining (bounded : a.Bounded) {size : Nat} (enough : size ≤ a.remaining) :
    a.makeRoom size = .ok () := by
  cases limit : a.capacity? with
  | none =>
    rw [makeRoom_of_growable limit]
    unfold Bounded at bounded
    unfold remaining at enough
    rw [capacity, limit, Option.getD_none] at bounded enough
    exact a.allocator.ask_of_le (by omega)
  | some capacity =>
    rw [remaining, Arena.capacity, limit, Option.getD_some] at enough
    rw [makeRoom_of_capacity limit, if_pos enough]

theorem writeAll_append (a : Arena) (first rest : List Bytes) :
    a.writeAll (first ++ rest) = (a.writeAll first).writeAll rest := List.foldl_append

theorem writeAll_cons (a : Arena) (bytes : Bytes) (rest : List Bytes) :
    a.writeAll (bytes :: rest) = (a.write bytes).2.writeAll rest := rfl

theorem write_grows (a : Arena) (bytes : Bytes) : a.Grows (a.write bytes).2 := by
  rcases a.write_cases bytes with ⟨e, -, refused⟩ | ⟨-, written⟩
  · rw [refused]
    exact .refl _
  · rw [written]
    exact a.grows_append bytes

theorem writeAll_grows (a : Arena) (writes : List Bytes) : a.Grows (a.writeAll writes) := by
  induction writes generalizing a with
  | nil => exact .refl _
  | cons bytes rest ih =>
    rw [writeAll_cons]
    exact (write_grows a bytes).trans (ih _)

/-- The buffer has what was written with success, in order. -/
theorem buffer_writeAll (a : Arena) (writes : List Bytes) :
    (a.writeAll writes).buffer = a.buffer ++ (a.accepted writes).flatMap Prod.snd := by
  induction writes generalizing a with
  | nil => simp [writeAll, accepted]
  | cons bytes rest ih =>
    rw [writeAll_cons, ih, accepted]
    rcases a.write_cases bytes with ⟨e, -, refused⟩ | ⟨-, written⟩
    · simp only [refused]
    · simp [written, append]

theorem laid_accepted (a : Arena) (writes : List Bytes) :
    ArenaRef.Laid a.length (a.writeAll writes).length ((a.accepted writes).map Prod.fst) := by
  induction writes generalizing a with
  | nil => exact .nil _
  | cons bytes rest ih =>
    have later := ih (a.write bytes).2
    rw [writeAll_cons, accepted]
    rcases a.write_cases bytes with ⟨e, -, refused⟩ | ⟨-, written⟩
    · simpa only [refused] using later
    · simp only [written, length_append] at later ⊢
      rw [List.map_cons]
      exact .cons (r := ⟨a.length, bytes.length⟩) later

theorem Bounded.write (h : a.Bounded) (bytes : Bytes) : (a.write bytes).2.Bounded := by
  rcases a.write_cases bytes with ⟨e, -, refused⟩ | ⟨room, written⟩
  · rwa [refused]
  · rw [written]
    unfold Bounded capacity at h ⊢
    rw [append_capacity?, length_append]
    cases limit : a.capacity? with
    | none => exact a.allocator.le_extended _ _
    | some capacity =>
      rw [makeRoom_of_capacity limit] at room
      rw [limit] at h
      simp only [Option.getD_some] at h ⊢
      split at room
      · omega
      · cases room

theorem Bounded.writeAll (h : a.Bounded) (writes : List Bytes) : (a.writeAll writes).Bounded := by
  induction writes generalizing a with
  | nil => exact h
  | cons bytes rest ih => exact ih (h.write bytes)

end Writes

/-- A new arena is empty. -/
theorem make_cases {m : Allocator} {origin : Origin} {a : Arena} (made : make m origin = .ok a) :
    a.buffer = [] ∧ a.capacity? = origin.limit? ∧ a.allocator = m := by
  cases origin with
  | fixed capacity | growable capacity =>
    obtain ⟨-, -, made⟩ := Error.bind_eq_ok.mp made
    cases made
    exact ⟨rfl, rfl, rfl⟩
  | empty =>
    cases made
    exact ⟨rfl, rfl, rfl⟩

/-- What is true of an arena after any writes. What is accepted lies one range after the other and
stays readable, a fixed arena takes what fits and any other what there is memory for, and a write
that fails changes nothing. -/
structure KeepsAll (m : Allocator) (origin : Origin) (a : Arena) (writes : List Bytes) :
    Prop where
  resolves : ∀ first bytes rest r, writes = first ++ bytes :: rest →
    ((a.writeAll first).write bytes).1 = .ok r → (a.writeAll writes).get? r = some bytes
  contents : (a.writeAll writes).buffer = (a.accepted writes).flatMap Prod.snd
  laid : ArenaRef.Laid 0 (a.writeAll writes).length ((a.accepted writes).map Prod.fst)
  covered : ∀ i < (a.writeAll writes).length,
    ∃! k : Nat, ∃ r : ArenaRef, ((a.accepted writes).map Prod.fst)[k]? = some r ∧ r.Covers i
  fits : ∀ capacity, origin = .fixed capacity →
    (a.writeAll writes).capacity = capacity ∧
      ∀ bytes, ((a.writeAll writes).write bytes).1 =
        if bytes.length ≤ capacity - (a.writeAll writes).length then
          .ok ⟨(a.writeAll writes).length, bytes.length⟩
        else .error (.outOfSpace bytes.length (a.writeAll writes).remaining)
  grows : origin.limit? = none → ∀ bytes, ((a.writeAll writes).write bytes).1 =
    (m.ask (a.writeAll writes).memory ((a.writeAll writes).length + bytes.length)).map fun _ =>
      ⟨(a.writeAll writes).length, bytes.length⟩
  takes : ∀ bytes, bytes.length ≤ (a.writeAll writes).remaining →
    ((a.writeAll writes).write bytes).1 = .ok ⟨(a.writeAll writes).length, bytes.length⟩
  refused : ∀ bytes error, ((a.writeAll writes).write bytes).1 = .error error →
    ((a.writeAll writes).write bytes).2 = a.writeAll writes
  bounded : (a.writeAll writes).length ≤ (a.writeAll writes).capacity
  balance : (a.writeAll writes).length + (a.writeAll writes).remaining =
    (a.writeAll writes).capacity

/-- References into an arena stay good whatever is written afterwards. -/
theorem references_stay_good {m : Allocator} {origin : Origin} {a : Arena}
    (made : make m origin = .ok a) (writes : List Bytes) : KeepsAll m origin a writes := by
  obtain ⟨empty, limit, same⟩ := make_cases made
  have start : a.length = 0 := by rw [length, empty, List.length_nil]
  have laid := laid_accepted a writes
  rw [start] at laid
  have bounded : (a.writeAll writes).Bounded := by
    apply Bounded.writeAll
    unfold Bounded
    omega
  have grown := a.writeAll_grows writes
  have limited := grown.capacity?.trans limit
  refine
    { resolves := ?_, contents := ?_, laid := laid, covered := ?_, fits := ?_, grows := ?_,
      takes := ?_, refused := ?_, bounded := bounded, balance := ?_ }
  · rintro first bytes rest r rfl answer
    rw [writeAll_append, writeAll_cons]
    apply (writeAll_grows _ rest).get?
    rcases (a.writeAll first).write_cases bytes with ⟨e, -, refused⟩ | ⟨-, written⟩
    · rw [refused] at answer
      cases answer
    · rw [written] at answer ⊢
      cases answer
      exact get?_written _ bytes
  · rw [buffer_writeAll, empty, List.nil_append]
  · intro i inside
    exact laid.existsUnique_covers (Nat.zero_le i) inside
  · rintro capacity rfl
    have whole : (a.writeAll writes).capacity = capacity := by
      rw [Arena.capacity, limited]
      rfl
    refine ⟨whole, fun bytes => ?_⟩
    rw [write_answer, makeRoom_of_capacity limited, remaining, whole]
    split <;> rfl
  · intro unlimited bytes
    have asked : (a.writeAll writes).allocator = m := by
      obtain ⟨bytes, memory, grown⟩ := grown
      rw [grown]
      exact same
    rw [write_answer, makeRoom_of_growable (limited.trans unlimited), asked]
  · intro bytes enough
    rw [write_answer, makeRoom_of_remaining bounded enough]
    rfl
  · intro bytes error failed
    rcases (a.writeAll writes).write_cases bytes with ⟨e, -, refused⟩ | ⟨-, written⟩
    · rw [refused]
    · rw [written] at failed
      cases failed
  · unfold Bounded at bounded
    unfold remaining
    omega

/-- A write that does not fit leaves the room for one that fills the arena to its last octet. -/
theorem filled_after_refusal :
    let m : Allocator := .doubling 100
    let a : Arena := ⟨[], .fixed 5, 5, m⟩
    let writes : List Bytes := [[1, 2, 3], [4, 5, 6, 7], [], [8, 9]]
    make m (.fixed 5) = .ok a ∧
      (a.writeAll writes).get? ⟨0, 3⟩ = some [1, 2, 3] ∧
      (a.writeAll writes).buffer = [1, 2, 3, 8, 9] ∧
      ((a.writeAll writes).write [1]).1 = .error (.outOfSpace 1 0) := by
  intro m a writes
  have kept : KeepsAll m (.fixed 5) a writes := references_stay_good rfl writes
  refine ⟨rfl, ?_, ?_, ?_⟩
  · exact kept.resolves [] [1, 2, 3] (writes.drop 1) ⟨0, 3⟩ rfl rfl
  · rw [kept.contents]
    decide
  · rw [(kept.fits 5 rfl).2]
    decide

end Arena

end WebSocketClient
