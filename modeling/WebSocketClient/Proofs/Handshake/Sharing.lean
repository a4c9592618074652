import WebSocketClient.Proofs.Handshake.Representation
import WebSocketClient.Stream

/-! # Who holds the handshake stream

An attempt holds its stream, the stream holds the attempt as its listener, and others hold the
stream too. Every handle is counted, and every step keeps the count. -/
namespace WebSocketClient.Handshake

def Event.releases : Event → Bool
  | completed .. | shutDown _ => true
  | _ => false

/-- A request was accepted, and its stream has neither completed since nor has the connection shut
down. -/
def Pending (events : List Event) (stream : StreamId) : Prop :=
  ∃ before connection after, events = before ++ .connected connection (.accepted stream) :: after ∧
    ∀ e ∈ after, e.releases = false

section Attempt

variable {a : Attempt} {events : List Event} {id : StreamId}

@[simp] theorem cancel_stream (a : Attempt) (error : Error) :
    (cancel a error).1.stream = a.stream := by
  unfold cancel; split <;> rfl

theorem stream_of_releases {e : Event} (releases : e.releases = true) :
    (next a e).1.stream = none := by
  cases e with
  | completed stream status error channel reply =>
    by_cases awaiting : a.phase = .awaitingResponse
    · rw [next, onCompleted_awaiting awaiting]
      dsimp only
      split <;> simp [establish]
    · rw [next, onCompleted_ignored awaiting]
  | shutDown error =>
    simp only [next, onShutDown]
    split <;> rfl
  | connected | connectFailed | headers => cases releases

theorem stream_of_accepted (connection : ConnectionId) :
    (next a (.connected connection (.accepted id))).1.stream = some id := rfl

/-- An attempt comes to hold a stream only when its request is accepted. -/
theorem stream_of_other {e : Event} (keeps : e.releases = false)
    (other : ∀ connection id, e ≠ .connected connection (.accepted id)) :
    (next a e).1.stream = a.stream := by
  cases e with
  | connected connection reply =>
    cases reply with
    | accepted id => exact absurd rfl (other connection id)
    | refused error => simp [next, onConnected]
  | connectFailed error => rfl
  | headers stream status batch =>
    simp only [next, onHeaders]
    split
    · rfl
    · split <;> simp
  | completed | shutDown => cases keeps

theorem not_pending_nil : ¬ Pending [] id := by
  rintro ⟨before, connection, after, whole, -⟩
  simp at whole

theorem pending_concat {e : Event} :
    Pending (events ++ [e]) id ↔ (∃ connection, e = .connected connection (.accepted id)) ∨
      (e.releases = false ∧ Pending events id) := by
  constructor
  · rintro ⟨before, connection, after, whole, keeps⟩
    obtain rfl | ⟨after, last, rfl⟩ := List.eq_nil_or_concat after
    · have ends := (List.append_inj' whole rfl).2
      exact .inl ⟨connection, (List.cons.inj ends).1⟩
    · rw [List.concat_eq_append, ← List.cons_append, ← List.append_assoc] at whole
      obtain ⟨rfl, ends⟩ := List.append_inj' whole rfl
      obtain rfl : e = last := (List.cons.inj ends).1
      refine .inr ⟨keeps e (by simp), before, connection, after, rfl, ?_⟩
      exact fun e mem => keeps e (by simp [mem])
  · rintro (⟨connection, rfl⟩ | ⟨keeps, before, connection, after, rfl, rest⟩)
    · exact ⟨events, connection, [], rfl, by simp⟩
    · refine ⟨before, connection, after ++ [e], by simp, ?_⟩
      intro d mem
      rcases List.mem_append.mp mem with mem | mem
      · exact rest d mem
      · rwa [List.mem_singleton.mp mem]

/-- Between the calls of a run that keeps the contract, an attempt holds its stream while it is
pending, and no stream at any other time. -/
theorem holds_stream_iff {o : Options} (fresh : Fresh o a) (kept : KeepsContract events) :
    (run a events).stream = some id ↔ Pending events id := by
  induction events using List.reverseRecOn generalizing id with
  | nil => exact iff_of_false (by simp [run, fresh.stream]) not_pending_nil
  | append_singleton events e ih =>
    obtain ⟨life, later, led, allowed, -⟩ := kept.split
    have before (id : StreamId) : (run a events).stream = some id ↔ Pending events id :=
      ih (by rw [KeepsContract, led]; rfl)
    rw [run_concat, pending_concat]
    by_cases accepted : ∃ connection other, e = .connected connection (.accepted other)
    · obtain ⟨connection, other, rfl⟩ := accepted
      obtain rfl : life = .dialling := by cases life <;> first | rfl | cases allowed
      have coherent := coherent_run fresh led
      have phase : (run a events).phase = .awaitingConnection := by
        simpa [Life.phases] using coherent.phase_mem
      have slots := coherent.slots
      rw [phase] at slots
      have none : ¬ Pending events id := by
        rw [← before id, slots.2.2.1]
        exact (Option.some_ne_none id).symm
      simp [stream_of_accepted, none]
    · have other : ∀ connection id, e ≠ .connected connection (.accepted id) :=
        fun connection id same => accepted ⟨connection, id, same⟩
      have first : ¬ ∃ connection, e = .connected connection (.accepted id) := by
        rintro ⟨connection, same⟩
        exact other connection id same
      cases releases : e.releases with
      | true => simp [stream_of_releases releases, first]
      | false => simp [stream_of_other releases other, first, before id]

end Attempt

/-- An attempt, its stream once there is one, and how many handles of the stream others hold. -/
structure Sharing where
  attempt : Attempt
  stream : Option (StreamId × Stream.State)
  others : Nat
  teardowns : Nat

namespace Sharing

inductive Act
  /-- The connection keeps some handles of a stream that it accepts. -/
  | connected (connection : ConnectionId) (reply : RequestReply) (kept : Nat)
  | connectFailed (error : Error)
  | shutDown (error : Option Error)
  /-- Somebody else uses the stream. The rest is there in case its completion is heard. -/
  | stream (e : Stream.Event) (channel : Option ChannelId) (reply : HandlerReply)

def heard? (id : StreamId) (status : Option Status) (channel : Option ChannelId)
    (reply : HandlerReply) : Stream.Callback → Option Event
  | .headers batch => some (.headers id status batch)
  | .complete error => some (.completed id status error channel reply)
  | _ => none

def hears? (s : Sharing) : Act → Option Event
  | .connected connection reply _ => some (.connected connection reply)
  | .connectFailed error => some (.connectFailed error)
  | .shutDown error => some (.shutDown error)
  | .stream e channel reply =>
    match s.stream with
    | none => none
    | some (id, t) => (Stream.next t e).2.bind (heard? id t.status channel reply)

def onStream (s : Sharing) (e : Stream.Event) : Sharing :=
  match s.stream with
  | none => s
  | some (id, t) =>
    let after := (Stream.next t e).1
    { s with
      stream := some (id, after)
      teardowns := s.teardowns + (!t.isDestroyed && after.isDestroyed).toNat }

/-- The attempt takes an event, if there is one. If it lets go of its stream, a handle is
dropped. -/
def onAttempt (s : Sharing) : Option Event → Sharing
  | none => s
  | some e =>
    let after := { s with attempt := (Handshake.next s.attempt e).1 }
    if s.attempt.stream.isSome ∧ after.attempt.stream = none then after.onStream .drop else after

def owned (handles : Nat) : Stream.Event → Nat
  | .clone => handles + 1
  | .drop => handles - 1
  | _ => handles

def made (kept : Nat) : Stream.State :=
  Stream.run Stream.initial (List.replicate kept .clone)

def next (s : Sharing) (act : Act) : Sharing :=
  match act with
  | .connected _ (.accepted id) kept =>
    { s.onAttempt (s.hears? act) with stream := some (id, made kept), others := kept }
  | .stream e _ _ =>
    { s.onStream e with others := owned s.others e }.onAttempt (s.hears? act)
  | _ => s.onAttempt (s.hears? act)

def inUse (s : Sharing) : Bool :=
  match s.stream with
  | none => false
  | some (_, t) => t.running != []

/-- Whoever uses the stream holds a handle, and keeps it while a callback runs. -/
def allows (s : Sharing) : Act → Bool
  | .stream .returned _ _ => true
  | .stream .drop _ _ => s.inUse.toNat < s.others
  | .stream _ _ _ => 0 < s.others
  | _ => true

def run (s : Sharing) (acts : List Act) : Sharing := acts.foldl next s

def events (s : Sharing) : List Act → List Event
  | [] => []
  | act :: rest => (s.hears? act).toList ++ events (s.next act) rest

def fair (s : Sharing) : List Act → Bool
  | [] => true
  | act :: rest => s.allows act && fair (s.next act) rest

def initial (a : Attempt) : Sharing := ⟨a, none, 0, 0⟩

def held (s : Sharing) : Nat := s.attempt.stream.isSome.toNat

/-- The stream holds the attempt as its listener, in the slot or in the callback that runs. -/
def BoundBack (s : Sharing) : Prop :=
  ∃ id t, s.stream = some (id, t) ∧ t.isDestroyed = false ∧
    (t.listening = true ∨ t.running ≠ [])

def Cyclic (s : Sharing) : Prop := s.attempt.stream.isSome ∧ s.BoundBack

def drops (s : Sharing) : List Act :=
  List.replicate s.others (.stream .drop none (.refused .unknown))

/-- The handles are those of the attempt and of others, and the stream has been torn down if none
is left. -/
inductive Counted (s : Sharing) : Prop
  | unmade (stream : s.stream = none) (free : s.attempt.stream = none) (others : s.others = 0)
      (teardowns : s.teardowns = 0) : Counted s
  | made {id : StreamId} {t : Stream.State} (stream : s.stream = some (id, t))
      (handles : t.handles = s.held + s.others) (teardowns : s.teardowns = t.isDestroyed.toNat)
      (used : t.running ≠ [] → 1 ≤ s.others) (same : ∀ held ∈ s.attempt.stream, held = id) :
      Counted s

def Open (t : Stream.State) : Prop :=
  (t.listening = true ∧ t.running = []) ∨
    (t.listening = false ∧ ∃ c, t.running = [c] ∧ c.isComplete = false)

section Stream

variable {t : Stream.State} {e : Stream.Event}

theorem next_handles (t : Stream.State) (e : Stream.Event) :
    (Stream.next t e).1.handles = owned t.handles e := by
  cases e with
  | call c =>
    simp only [Stream.next]
    split <;> rfl
  | returned =>
    simp only [Stream.next, Stream.finish]
    split <;> rfl
  | _ => rfl

theorem made_eq (kept : Nat) : made kept = { Stream.initial with handles := 1 + kept } := by
  have more (t : Stream.State) (kept : Nat) :
      Stream.run t (List.replicate kept .clone) = { t with handles := t.handles + kept } := by
    induction kept generalizing t with
    | zero => rfl
    | succ kept ih =>
      rw [List.replicate_succ]
      change Stream.run { t with handles := t.handles + 1 } _ = _
      rw [ih, Nat.add_right_comm t.handles 1]
      rfl
  exact more _ _

theorem Open.next (h : Open t) (pending : ∀ c ∈ (Stream.next t e).2, c.isComplete = false) :
    Open (Stream.next t e).1 := by
  cases e with
  | call c =>
    rcases h with ⟨slot, idle⟩ | ⟨slot, running⟩
    · simp only [Stream.next, slot, if_true] at pending ⊢
      exact .inr ⟨rfl, c, by simp [Stream.invoke, idle], pending c rfl⟩
    · simp only [Stream.next, slot, Bool.false_eq_true, if_false]
      exact .inr ⟨slot, running⟩
  | returned =>
    rcases h with ⟨slot, idle⟩ | ⟨slot, c, running, other⟩
    · simp only [Stream.next, Stream.finish, idle]
      exact .inl ⟨slot, idle⟩
    · simp only [Stream.next, Stream.finish, running]
      exact .inl ⟨by simp [other], rfl⟩
  | _ => exact h

end Stream

section Step

variable {s : Sharing}

/-- An event that does not bring a stream leaves the handles right. -/
theorem Counted.onAttempt (h : s.Counted) {e : Event}
    (other : ∀ connection id, e ≠ .connected connection (.accepted id)) :
    (s.onAttempt (some e)).Counted := by
  have after : (Handshake.next s.attempt e).1.stream =
      if e.releases then none else s.attempt.stream := by
    cases releases : e.releases with
    | true => exact stream_of_releases releases
    | false => exact stream_of_other releases other
  cases h with
  | unmade stream free others teardowns =>
    have none : (Handshake.next s.attempt e).1.stream = none := by
      rw [after, free, ite_self]
    rw [Sharing.onAttempt]
    dsimp only
    rw [if_neg (by simp [free])]
    exact .unmade stream none others teardowns
  | @made id t stream handles teardowns used same =>
    rw [Sharing.onAttempt]
    dsimp only
    split
    · rename_i letsGo
      have some : t.handles = 1 + s.others := by rw [handles, held, letsGo.1]; rfl
      have alive : t.isDestroyed = false := by simp [Stream.State.isDestroyed, some]
      rw [Sharing.onStream, stream]
      refine .made rfl ?_ ?_ used ?_
      · simp [Stream.next, held, letsGo.2, some]
      · simp [teardowns, alive]
      · simp [letsGo.2]
    · rename_i keeps
      have kept : (Handshake.next s.attempt e).1.stream = s.attempt.stream := by
        rw [after] at keeps ⊢
        split
        · rename_i releases
          rw [if_pos releases] at keeps
          cases stream : s.attempt.stream with
          | none => rfl
          | some id => simp [stream] at keeps
        · rfl
      refine .made stream ?_ teardowns used (by simpa [kept] using same)
      simpa [held, kept] using handles

/-- A use of the stream leaves the handles right. -/
theorem Counted.onStream (h : s.Counted) {e : Stream.Event} {channel : Option ChannelId}
    {reply : HandlerReply} (allowed : s.allows (.stream e channel reply) = true) :
    ({ s.onStream e with others := owned s.others e } : Sharing).Counted := by
  cases h with
  | unmade stream free others teardowns =>
    have unused : owned s.others e = 0 := by
      cases e with
      | returned => exact others
      | _ => simp [allows, others] at allowed
    rw [Sharing.onStream, stream]
    exact .unmade stream free unused teardowns
  | @made id t stream handles teardowns used same =>
    rw [Sharing.onStream, stream]
    have count : owned t.handles e = s.held + owned s.others e := by
      cases e with
      | drop =>
        simp only [allows, decide_eq_true_eq] at allowed
        simp only [owned, handles]
        omega
      | clone =>
        simp only [owned, handles]
        omega
      | _ => exact handles
    have gone : t.isDestroyed = true → owned t.handles e = 0 := by
      intro destroyed
      have nobody : t.handles = 0 := by simpa [Stream.State.isDestroyed] using destroyed
      cases e with
      | clone =>
        simp only [allows, decide_eq_true_eq] at allowed
        omega
      | _ => simp [owned, nobody]
    refine .made rfl ?_ ?_ ?_ same
    · rw [next_handles]
      exact count
    · simp only [Stream.State.isDestroyed, next_handles, teardowns]
      cases destroyed : t.isDestroyed with
      | false =>
        rw [Stream.State.isDestroyed] at destroyed
        simp [destroyed]
      | true =>
        have nobody := gone destroyed
        rw [Stream.State.isDestroyed] at destroyed
        simp [destroyed, nobody]
    · intro running
      cases e with
      | returned =>
        apply used
        intro idle
        simp [Stream.next, Stream.finish, idle] at running
      | drop =>
        have busy : (t.running != []) = true := bne_iff_ne.mpr running
        simp only [allows, inUse, stream, busy, Bool.toNat_true, decide_eq_true_eq] at allowed
        exact Nat.le_sub_one_of_lt allowed
      | clone => exact Nat.le_add_left 1 s.others
      | _ => exact of_decide_eq_true allowed

/-- The stream is left alone by an attempt that goes on holding it. -/
theorem onAttempt_of_held {e : Option Event} (held : (s.onAttempt e).attempt.stream.isSome) :
    (s.onAttempt e).stream = s.stream := by
  cases e with
  | none => rfl
  | some e =>
    rw [Sharing.onAttempt] at held ⊢
    dsimp only at held ⊢
    split
    · rename_i letsGo
      rw [if_pos letsGo, Sharing.onStream] at held
      split at held <;> simp [letsGo.2] at held
    · rfl

theorem onAttempt_attempt (s : Sharing) (e : Option Event) :
    (s.onAttempt e).attempt = Handshake.run s.attempt e.toList := by
  cases e with
  | none => rfl
  | some e =>
    rw [Sharing.onAttempt]
    dsimp only
    split
    · rw [Sharing.onStream]
      split <;> rfl
    · rfl

theorem onStream_attempt (s : Sharing) (e : Stream.Event) :
    (s.onStream e).attempt = s.attempt := by
  rw [Sharing.onStream]
  split <;> rfl

theorem next_attempt (s : Sharing) (act : Act) :
    (s.next act).attempt = Handshake.run s.attempt (s.hears? act).toList := by
  unfold next
  split
  · exact onAttempt_attempt s _
  · rw [onAttempt_attempt, onStream_attempt]
  · exact onAttempt_attempt s _

end Step

end Sharing

end WebSocketClient.Handshake
