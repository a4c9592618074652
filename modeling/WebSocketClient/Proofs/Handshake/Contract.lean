import Mathlib.Data.List.Induction
import WebSocketClient.Handshake.Start
import WebSocketClient.Handshake.Step

/-! # The callback contract of a connection

A connection tells its listener once how setup went, and after a setup that succeeded at most once
that it has shut down. Streams may deliver and complete at any time. A call made from inside a
collaborator finds the attempt locked, so the calls are a sequence in any case. -/
namespace WebSocketClient.Handshake

/-- What the listener of a connection has been told so far. -/
inductive Life
  | dialling
  | live
  | gone
deriving DecidableEq

namespace Life

/-- The contract, one call at a time. -/
def next? : Life → Event → Option Life
  | .dialling, .connected _ _ => some .live
  | .dialling, .connectFailed _ => some .gone
  | .live, .shutDown _ => some .gone
  | life, .headers _ _ _ => some life
  | life, .completed _ _ _ _ _ => some life
  | _, _ => none

def follow? : Life → List Event → Option Life
  | life, [] => some life
  | life, e :: rest => (life.next? e).bind (follow? · rest)

theorem follow?_append (life : Life) (first rest : List Event) :
    life.follow? (first ++ rest) = (life.follow? first).bind (·.follow? rest) := by
  induction first generalizing life with
  | nil => rfl
  | cons e first ih => cases h : life.next? e <;> simp [follow?, h, ih]

/-- Once nothing more can come from the connection, only streams still call. -/
theorem gone_next? {e : Event} {life : Life} (h : Life.gone.next? e = some life) :
    life = .gone ∧ ((∃ s st b, e = .headers s st b) ∨ ∃ s st er c r, e = .completed s st er c r) := by
  cases e <;> simp_all [next?]

end Life

def KeepsContract (events : List Event) : Prop := (Life.dialling.follow? events).isSome

instance (events : List Event) : Decidable (KeepsContract events) :=
  inferInstanceAs (Decidable ((Life.dialling.follow? events).isSome = true))

theorem KeepsContract.left {first rest : List Event} (h : KeepsContract (first ++ rest)) :
    ∃ life, Life.dialling.follow? first = some life := by
  rw [KeepsContract, Life.follow?_append] at h
  cases led : Life.dialling.follow? first with
  | none => simp [led] at h
  | some life => exact ⟨life, rfl⟩

theorem run_append (a : Attempt) (first rest : List Event) :
    run a (first ++ rest) = run (run a first) rest := List.foldl_append

theorem effects_append (a : Attempt) (first rest : List Event) :
    effects a (first ++ rest) = effects a first ++ effects (run a first) rest := by
  induction first generalizing a with
  | nil => rfl
  | cons e first ih => simp only [List.cons_append, effects, ih, List.append_assoc]; rfl

theorem run_concat (a : Attempt) (events : List Event) (e : Event) :
    run a (events ++ [e]) = (next (run a events) e).1 := run_append a events [e]

theorem effects_concat (a : Attempt) (events : List Event) (e : Event) :
    effects a (events ++ [e]) = effects a events ++ (next (run a events) e).2 := by
  simp [effects_append, effects]

/-- What holds before any call, and is kept by every call that the contract allows, holds after
every run that keeps the contract. -/
theorem contract_induction (Holds : Life → Attempt → List Effect → Prop) {a : Attempt}
    (base : Holds .dialling a [])
    (step : ∀ {life later b told e}, Holds life b told → life.next? e = some later →
      Holds later (next b e).1 (told ++ (next b e).2))
    {events : List Event} {life : Life} (h : Life.dialling.follow? events = some life) :
    Holds life (run a events) (effects a events) := by
  induction events using List.reverseRecOn generalizing life with
  | nil =>
    cases h
    exact base
  | append_singleton events e ih =>
    rw [Life.follow?_append] at h
    obtain ⟨before, hb, he⟩ := Option.bind_eq_some_iff.mp h
    have he : before.next? e = some life := by simpa [Life.follow?] using he
    rw [run_concat, effects_concat]
    exact step (ih hb) he

structure Fresh (o : Options) (a : Attempt) : Prop where
  phase : a.phase = .awaitingConnection
  onSetup : a.onSetup = o.onSetup
  reaction : o.onSetup.isSome
  onShutdown : a.onShutdown = o.onShutdown
  initialWindow : a.initialWindow = o.initialWindow
  manualWindow : a.manualWindow = o.manualWindow
  frameCallbacks : a.frameCallbacks = o.hasAllFrameCallbacks
  status : a.status = none
  failure : a.failure = none
  socket : a.socket = none
  connection : a.connection = none
  stream : a.stream = none
  response : a.response.records = []

theorem reserveResponse_records {m : Allocator} {count : Nat} {s : HeaderStore}
    (h : reserveResponse m count = .ok s) : s.records = [] := by
  obtain ⟨arena, -, h⟩ := Error.bind_eq_ok.mp h
  obtain ⟨-, -, h⟩ := Error.bind_eq_ok.mp h
  cases h
  rfl

theorem required?_eq_some {o : Options} {service : Service} {socket : SocketOptions} {url : Url}
    {reaction : SetupReaction} :
    required? o = some (service, socket, url, reaction) ↔
      o.service = some service ∧ o.socket = some socket ∧ o.url = some url ∧
        o.onSetup = some reaction := by
  unfold required?
  split
  · simp_all
  · rename_i missing
    constructor
    · nofun
    · rintro ⟨a, b, c, d⟩
      exact (missing _ _ _ _ a b c d).elim

/-- What a start that succeeds has made, and out of what. -/
theorem start_cases {m : Allocator} {o : Options} {a : Attempt} {dial : Dial}
    (h : start m o = .ok (a, dial)) :
    Fresh o a ∧ ∃ url, o.url = some url ∧
      storeRequest m (Bytes.ofChars url.target) o.headers = .ok (a.request, a.requestPath) := by
  unfold start at h
  split at h
  · cases h
  rename_i service socket url onSetup required
  obtain ⟨-, -, target, reaction⟩ := required?_eq_some.mp required
  split at h
  · cases h
  split at h
  · cases h
  split at h
  · cases h
  split at h
  · cases h
  split at h
  · cases h
  obtain ⟨stored, storing, h⟩ := Error.bind_eq_ok.mp h
  obtain ⟨response, reserved, h⟩ := Error.bind_eq_ok.mp h
  cases h
  refine ⟨?_, url, target, storing⟩
  exact ⟨rfl, reaction.symm, by simp [reaction], rfl, rfl, rfl, rfl, rfl, rfl, rfl, rfl, rfl,
    reserveResponse_records reserved⟩

theorem start_fresh {m : Allocator} {o : Options} {a : Attempt} {dial : Dial}
    (h : start m o = .ok (a, dial)) : Fresh o a := (start_cases h).1

end WebSocketClient.Handshake
