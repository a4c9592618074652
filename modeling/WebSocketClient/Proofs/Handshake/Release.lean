import WebSocketClient.Proofs.Handshake.Sharing

/-! # The release of the handshake stream

The attempt lets go of its stream on every path. That breaks the cycle of the two, and leaves the
stream to be destroyed by the last of the others that hold it. -/
namespace WebSocketClient.Handshake

namespace Sharing

structure Sound (life : Life) (s : Sharing) : Prop where
  coherent : Coherent life s.attempt
  counted : s.Counted
  bound : s.attempt.stream.isSome → ∃ id t, s.stream = some (id, t) ∧ Open t
  unmade : life = .dialling → s.stream = none

section Run

variable {s : Sharing} {life later : Life}

theorem coherent_toList (h : Coherent life s.attempt) {e : Option Event}
    (allowed : life.follow? e.toList = some later) :
    Coherent later (Handshake.run s.attempt e.toList) := by
  cases e with
  | none =>
    cases allowed
    exact h
  | some e =>
    have step : life.next? e = some later := by simpa [Life.follow?] using allowed
    exact (coherent_step h step).1

/-- An attempt that goes on holding a stream has not heard that it lets go of it. -/
theorem held_before {a : Attempt} {e : Option Event}
    (other : ∀ connection id, .connected connection (.accepted id) ∉ e)
    (held : (Handshake.run a e.toList).stream.isSome) :
    a.stream.isSome ∧ ∀ e' ∈ e, e'.releases = false := by
  cases e with
  | none => exact ⟨held, by simp⟩
  | some e =>
    have after : (Handshake.next a e).1.stream.isSome := held
    cases releases : e.releases with
    | true =>
      rw [stream_of_releases releases] at after
      cases after
    | false =>
      have same : ∀ connection id, e ≠ .connected connection (.accepted id) :=
        fun connection id same => other connection id (by simp [same])
      rw [stream_of_other releases same] at after
      exact ⟨after, by simpa using releases⟩

theorem Counted.hears (h : s.Counted) {e : Option Event}
    (other : ∀ connection id, .connected connection (.accepted id) ∉ e) :
    (s.onAttempt e).Counted := by
  cases e with
  | none => exact h
  | some e => exact h.onAttempt fun connection id same => other connection id (by simp [same])

/-- A request is accepted: the attempt holds the handle that it is given. -/
theorem counted_accepted (h : Sound .dialling s) (connection : ConnectionId) (id : StreamId)
    (kept : Nat) : (s.next (.connected connection (.accepted id) kept)).Counted := by
  cases h.counted with
  | made stream =>
    rw [h.unmade rfl] at stream
    cases stream
  | unmade _ free _ teardowns =>
    have alone : (s.onAttempt (some (.connected connection (.accepted id)))).teardowns = 0 := by
      rw [onAttempt]
      dsimp only
      rw [if_neg (by simp [free])]
      exact teardowns
    have holds := next_attempt s (.connected connection (.accepted id) kept)
    have stream : (s.next (.connected connection (.accepted id) kept)).attempt.stream = some id := by
      rw [holds]
      rfl
    refine .made rfl ?_ ?_ ?_ ?_
    · rw [held, stream, made_eq]
      rfl
    · have alive : (made kept).isDestroyed = false := by simp [made_eq, Stream.State.isDestroyed]
      rw [alive]
      exact alone
    · simp [made_eq, Stream.initial]
    · simp [stream]

/-- The listener is not called with a completion that the attempt does not hear. -/
theorem pending_of_held {id : StreamId} {t : Stream.State} (stream : s.stream = some (id, t))
    {e : Stream.Event} {channel : Option ChannelId} {reply : HandlerReply}
    (held : ∀ e' ∈ s.hears? (.stream e channel reply), e'.releases = false) :
    ∀ c ∈ (Stream.next t e).2, c.isComplete = false := by
  intro c started
  cases c with
  | complete error =>
    have starts : (Stream.next t e).2 = some (.complete error) := started
    have released := held (.completed id t.status error channel reply)
      (by simp [hears?, stream, starts, heard?])
    cases released
  | _ => rfl

theorem not_accepted_of_stream (s : Sharing) (e : Stream.Event) (channel : Option ChannelId)
    (reply : HandlerReply) (connection : ConnectionId) (id : StreamId) :
    .connected connection (.accepted id) ∉ s.hears? (.stream e channel reply) := by
  intro mem
  simp only [hears?] at mem
  split at mem
  · cases mem
  · obtain ⟨c, -, made⟩ := Option.bind_eq_some_iff.mp mem
    cases c <;> cases made

theorem bound_stream (h : Sound life s) (e : Stream.Event) (channel : Option ChannelId)
    (reply : HandlerReply) (held : (s.next (.stream e channel reply)).attempt.stream.isSome) :
    ∃ id t, (s.next (.stream e channel reply)).stream = some (id, t) ∧ Open t := by
  have other := not_accepted_of_stream s e channel reply
  have after := held
  rw [next_attempt] at after
  obtain ⟨before, keeps⟩ := held_before other after
  obtain ⟨id, t, stream, opened⟩ := h.bound before
  refine ⟨id, (Stream.next t e).1, ?_, opened.next (pending_of_held stream keeps)⟩
  rw [next] at held ⊢
  rw [onAttempt_of_held held, onStream, stream]

/-- The connection tells the attempt something else than that its request is accepted. -/
theorem Sound.told (h : Sound life s) {e : Event}
    (other : ∀ connection id, e ≠ .connected connection (.accepted id))
    (kept : life.next? e = some later) (goesOn : later ≠ .dialling) :
    Sound later (s.onAttempt (some e)) := by
  have same : ∀ connection id, .connected connection (.accepted id) ∉ some e :=
    fun connection id mem => other connection id (Option.mem_some.mp mem)
  refine ⟨?_, h.counted.onAttempt other, ?_, fun first => absurd first goesOn⟩
  · rw [onAttempt_attempt]
    exact (coherent_step h.coherent kept).1
  · intro held
    have after := held
    rw [onAttempt_attempt] at after
    rw [onAttempt_of_held held]
    exact h.bound (held_before same after).1

/-- Whatever a stream does, the connection has told as much as before. -/
theorem life_of_stream {e : Stream.Event} {channel : Option ChannelId} {reply : HandlerReply}
    (kept : life.follow? (s.hears? (.stream e channel reply)).toList = some later) :
    later = life := by
  simp only [hears?] at kept
  split at kept
  · cases kept
    rfl
  · rename_i id t _
    generalize (Stream.next t e).2 = started at kept
    cases started with
    | none =>
      cases kept
      rfl
    | some c => cases life <;> cases c <;> cases kept <;> rfl

theorem Sound.stream (h : Sound life s) {e : Stream.Event} {channel : Option ChannelId}
    {reply : HandlerReply} (allowed : s.allows (.stream e channel reply) = true)
    (kept : life.follow? (s.hears? (.stream e channel reply)).toList = some later) :
    Sound later (s.next (.stream e channel reply)) := by
  have coherent := coherent_toList h.coherent kept
  rw [← next_attempt] at coherent
  refine ⟨coherent, ?_, bound_stream h e channel reply, ?_⟩
  · exact (h.counted.onStream allowed).hears (not_accepted_of_stream s e channel reply)
  · intro first
    have none := h.unmade (life_of_stream kept ▸ first)
    simp [Sharing.next, hears?, onAttempt, Sharing.onStream, none]

theorem Sound.next (h : Sound life s) {act : Act} (allowed : s.allows act = true)
    (kept : life.follow? (s.hears? act).toList = some later) : Sound later (s.next act) := by
  cases act with
  | connected connection reply count =>
    obtain rfl : life = .dialling := by cases life <;> first | rfl | cases kept
    obtain rfl : later = .live := by cases kept; rfl
    cases reply with
    | refused error => exact h.told (by simp) rfl (by simp)
    | accepted id =>
      have coherent := coherent_toList h.coherent kept
      rw [← next_attempt] at coherent
      refine ⟨coherent, counted_accepted h connection id count, fun _ => ?_, nofun⟩
      exact ⟨id, made count, rfl, .inl (by simp [made_eq, Stream.initial])⟩
  | connectFailed error =>
    obtain rfl : life = .dialling := by cases life <;> first | rfl | cases kept
    obtain rfl : later = .gone := by cases kept; rfl
    exact h.told (by simp) rfl (by simp)
  | shutDown error =>
    obtain rfl : life = .live := by cases life <;> first | rfl | cases kept
    obtain rfl : later = .gone := by cases kept; rfl
    exact h.told (by simp) rfl (by simp)
  | stream e channel reply => exact h.stream allowed kept

theorem Sound.run (h : Sound life s) {acts : List Act} (fair : s.fair acts = true)
    (kept : life.follow? (s.events acts) = some later) : Sound later (s.run acts) := by
  induction acts generalizing s life with
  | nil =>
    cases kept
    exact h
  | cons act acts ih =>
    obtain ⟨allowed, fair⟩ := Bool.and_eq_true_iff.mp fair
    rw [events, Life.follow?_append] at kept
    obtain ⟨between, first, rest⟩ := Option.bind_eq_some_iff.mp kept
    exact ih (h.next allowed first) fair rest

theorem run_attempt (s : Sharing) (acts : List Act) :
    (s.run acts).attempt = Handshake.run s.attempt (s.events acts) := by
  induction acts generalizing s with
  | nil => rfl
  | cons act acts ih =>
    rw [events, Handshake.run_append, ← next_attempt]
    exact ih (s.next act)

theorem sound_initial {o : Options} {a : Attempt} (fresh : Fresh o a) :
    Sound .dialling (initial a) :=
  ⟨fresh.coherent, .unmade rfl fresh.stream rfl rfl, by simp [initial, fresh.stream], fun _ => rfl⟩

theorem onStream_isSome (s : Sharing) (e : Stream.Event) :
    (s.onStream e).stream.isSome = s.stream.isSome := by
  rw [onStream]
  split
  · rfl
  · rename_i stream
    simp [stream]

theorem onAttempt_isSome (s : Sharing) (e : Option Event) :
    (s.onAttempt e).stream.isSome = s.stream.isSome := by
  cases e with
  | none => rfl
  | some e =>
    rw [onAttempt]
    dsimp only
    split
    · exact onStream_isSome _ _
    · rfl

/-- A stream is there once a request has been accepted. -/
theorem next_isSome (s : Sharing) (act : Act) :
    (s.next act).stream.isSome ↔ s.stream.isSome ∨
      ∃ connection id, .connected connection (.accepted id) ∈ (s.hears? act).toList := by
  have quiet {act : Act} (same : (s.next act).stream.isSome = s.stream.isSome)
      (other : ∀ connection id, .connected connection (.accepted id) ∉ s.hears? act) :
      (s.next act).stream.isSome ↔ s.stream.isSome ∨
        ∃ connection id, .connected connection (.accepted id) ∈ (s.hears? act).toList := by
    rw [same]
    refine ⟨.inl, fun made => made.resolve_right ?_⟩
    rintro ⟨connection, id, mem⟩
    exact other connection id (Option.mem_toList.mp mem)
  cases act with
  | connected connection reply kept =>
    cases reply with
    | accepted id => simp [next, hears?]
    | refused error => exact quiet (onAttempt_isSome s _) (by simp [hears?])
  | connectFailed error => exact quiet (onAttempt_isSome s _) (by simp [hears?])
  | shutDown error => exact quiet (onAttempt_isSome s _) (by simp [hears?])
  | stream e channel reply =>
    refine quiet ?_ (not_accepted_of_stream s e channel reply)
    rw [next, onAttempt_isSome]
    exact onStream_isSome s e

theorem run_isSome (s : Sharing) (acts : List Act) :
    (s.run acts).stream.isSome ↔ s.stream.isSome ∨
      ∃ connection id, .connected connection (.accepted id) ∈ s.events acts := by
  induction acts generalizing s with
  | nil => simp [run, events]
  | cons act acts ih =>
    have rest := ih (s.next act)
    rw [next_isSome] at rest
    simp only [events, List.mem_append, exists_or, ← or_assoc]
    exact rest

/-- Dropping a handle that is left changes nothing but the number of handles. -/
theorem next_drop {n : Nat} (left : s.others = n + 1) (idle : s.inUse = false) :
    let act : Act := .stream .drop none (.refused .unknown)
    s.allows act = true ∧ s.hears? act = none ∧ (s.next act).others = n ∧
      (s.next act).inUse = false := by
  intro act
  have unheard : s.hears? act = none := by
    simp only [act, hears?]
    split <;> rfl
  refine ⟨?_, unheard, ?_, ?_⟩
  · simp [act, allows, idle, left]
  · simp only [act, next]
    rw [unheard]
    simp [onAttempt, owned, left]
  · simp only [act, next]
    rw [unheard]
    cases stream : s.stream with
    | none => simp [onAttempt, onStream, inUse, stream]
    | some held => simpa [onAttempt, onStream, inUse, stream, Stream.next] using idle

/-- When nobody uses the stream, everybody else can let go of it, and the attempt hears nothing of
that. -/
theorem fair_drops (idle : s.inUse = false) :
    s.fair s.drops = true ∧ s.events s.drops = [] ∧ (s.run s.drops).others = 0 := by
  obtain ⟨n, others⟩ : ∃ n, s.others = n := ⟨_, rfl⟩
  rw [drops, others]
  induction n generalizing s with
  | zero => exact ⟨rfl, rfl, others⟩
  | succ n ih =>
    obtain ⟨allowed, unheard, left, still⟩ := next_drop others idle
    obtain ⟨fair, quiet, none⟩ := ih still left
    refine ⟨?_, ?_, none⟩
    · rw [List.replicate_succ, Sharing.fair, allowed, fair]
      rfl
    · rw [List.replicate_succ, events, unheard, quiet]
      rfl

end Run

/-- How the handles stand after an attempt `a` has heard `events`. It holds one while its stream is
pending, and what it has let go of is destroyed with the last handle of the others. -/
structure Accounted (a : Attempt) (events : List Event) (s : Sharing) : Prop where
  attempt : s.attempt = Handshake.run a events
  made : s.stream.isSome ↔ ∃ connection id, .connected connection (.accepted id) ∈ events
  holds : ∀ id, s.attempt.stream = some id ↔ Pending events id
  handles : ∀ id t, s.stream = some (id, t) →
    t.handles = s.held + s.others ∧ s.teardowns = t.isDestroyed.toNat
  cyclic : s.Cyclic ↔ ∃ id, Pending events id
  destroyed : s.stream.isSome → (∀ id, ¬ Pending events id) → s.inUse = false →
    s.fair s.drops = true ∧ s.events s.drops = [] ∧
      (s.run s.drops).teardowns = 1 ∧ ¬ (s.run s.drops).BoundBack

theorem Sound.cyclic_iff {s : Sharing} {life : Life} (h : Sound life s) :
    s.Cyclic ↔ s.attempt.stream.isSome := by
  refine ⟨And.left, fun held => ⟨held, ?_⟩⟩
  obtain ⟨id, t, stream, opened⟩ := h.bound held
  refine ⟨id, t, stream, ?_, ?_⟩
  · cases h.counted with
    | unmade none => simp [stream] at none
    | made same handles =>
      obtain ⟨rfl, rfl⟩ := Prod.mk.inj (Option.some.inj (stream.symm.trans same))
      simp [Stream.State.isDestroyed, handles, Sharing.held, held]
  · rcases opened with ⟨slot, -⟩ | ⟨-, c, running, -⟩
    · exact .inl slot
    · exact .inr (by simp [running])

/-- A stream without handles has been torn down once, and holds nothing. -/
theorem Sound.torn_down {s : Sharing} {life : Life} (h : Sound life s) (made : s.stream.isSome)
    (free : s.attempt.stream = none) (others : s.others = 0) :
    s.teardowns = 1 ∧ ¬ s.BoundBack := by
  cases h.counted with
  | unmade none =>
    rw [none] at made
    cases made
  | @made id t stream handles teardowns =>
    have destroyed : t.isDestroyed = true := by
      simp [Stream.State.isDestroyed, handles, held, free, others]
    refine ⟨by rw [teardowns, destroyed]; rfl, ?_⟩
    rintro ⟨id', t', stream', alive, -⟩
    obtain ⟨rfl, rfl⟩ := Prod.mk.inj (Option.some.inj (stream.symm.trans stream'))
    rw [destroyed] at alive
    cases alive

end Sharing

/-- On every path an attempt lets go of its stream. It holds one handle from the moment its request
is accepted until the stream completes or the connection shuts down. As long as it does, the two
keep each other. From then on every handle is somebody else's, and when those are dropped the
stream is torn down, which happens once. -/
theorem stream_is_released {m : Allocator} {o : Options} {a : Attempt} {dial : Dial}
    (started : start m o = .ok (a, dial)) {acts : List Sharing.Act}
    (fair : (Sharing.initial a).fair acts = true)
    (kept : KeepsContract ((Sharing.initial a).events acts)) :
    Sharing.Accounted a ((Sharing.initial a).events acts) ((Sharing.initial a).run acts) := by
  have fresh := start_fresh started
  obtain ⟨life, led⟩ := Option.isSome_iff_exists.mp kept
  have sound := (Sharing.sound_initial fresh).run fair led
  have attempt := (Sharing.initial a).run_attempt acts
  have holds (id : StreamId) : ((Sharing.initial a).run acts).attempt.stream = some id ↔
      Pending ((Sharing.initial a).events acts) id := by
    rw [attempt]
    exact holds_stream_iff fresh kept
  refine ⟨attempt, ?_, holds, ?_, ?_, ?_⟩
  · simpa [Sharing.initial] using (Sharing.initial a).run_isSome acts
  · intro id t stream
    cases sound.counted with
    | unmade none => simp [stream] at none
    | made same handles teardowns =>
      obtain ⟨rfl, rfl⟩ := Prod.mk.inj (Option.some.inj (stream.symm.trans same))
      exact ⟨handles, teardowns⟩
  · rw [sound.cyclic_iff, Option.isSome_iff_exists]
    exact exists_congr holds
  · intro made free idle
    have none : ((Sharing.initial a).run acts).attempt.stream = none :=
      Option.eq_none_iff_forall_ne_some.mpr fun id held => free id ((holds id).mp held)
    obtain ⟨allowed, quiet, others⟩ := Sharing.fair_drops idle
    refine ⟨allowed, quiet, ?_⟩
    have later := sound.run allowed (by rw [quiet]; rfl)
    apply later.torn_down
    · exact (Sharing.run_isSome _ _).mpr (.inl made)
    · rw [Sharing.run_attempt, quiet]
      exact none
    · exact others

/-- The connection shuts down before the response, and the stream completes after that. -/
def lateActs : List Sharing.Act :=
  [.connected 0 (.accepted 0) 1, .shutDown none,
    .stream (.call (.complete (some .connectionClosed))) none (.refused .unknown),
    .stream .returned none (.refused .unknown)]

theorem late_completion_is_released :
    ∃ a dial, start (.doubling 4096) plainOptions = .ok (a, dial) ∧
      (Sharing.initial a).fair lateActs = true ∧
      KeepsContract ((Sharing.initial a).events lateActs) ∧
      ¬ ((Sharing.initial a).run lateActs).Cyclic ∧
      ((Sharing.initial a).run lateActs).others = 1 ∧
      ((Sharing.initial a).run lateActs).teardowns = 0 ∧
      (((Sharing.initial a).run lateActs).run ((Sharing.initial a).run lateActs).drops).teardowns =
        1 := by
  refine ⟨_, _, rfl, rfl, by decide, ?_⟩
  have accounted := @stream_is_released (.doubling 4096) plainOptions _ _ rfl lateActs rfl
    (by decide)
  have free (id : StreamId) : ¬ Pending _ id := fun pending => by
    cases (accounted.holds id).mpr pending
  refine ⟨fun cyclic => ?_, rfl, rfl, (accounted.destroyed rfl free rfl).2.2.1⟩
  obtain ⟨id, pending⟩ := accounted.cyclic.mp cyclic
  exact free id pending

end WebSocketClient.Handshake
