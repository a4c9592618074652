import WebSocketClient.Proofs.Handshake.Reporting

/-! # What the phase of an attempt says

Between two calls the phase says what an attempt holds: its connection, its stream, its WebSocket,
the callbacks that are still to be called, and the failure that was recorded. Phases only move
forward. -/
namespace WebSocketClient.Handshake

/-- What an attempt holds in each phase. The phase of validation is over before a call returns. -/
def Slots (a : Attempt) : Phase → Prop
  | .awaitingConnection =>
    a.onSetup.isSome ∧ a.connection = none ∧ a.stream = none ∧ a.socket = none ∧
      a.failure = none ∧ a.response.headers = []
  | .awaitingResponse =>
    a.onSetup.isSome ∧ a.connection.isSome ∧ a.stream.isSome ∧ a.socket = none ∧
      a.failure = none
  | .validating => False
  | .established =>
    a.onSetup = none ∧ a.connection.isSome ∧ a.socket.isSome ∧ a.stream = none ∧
      a.frameCallbacks = false ∧ a.failure = none
  | .cancelling =>
    a.onSetup.isSome ∧ a.failure.isSome ∧ a.connection.isSome ∧ a.socket = none
  | .terminated =>
    a.onSetup = none ∧ a.connection = none ∧ a.stream = none ∧ a.frameCallbacks = false ∧
      a.socket = none

def Phase.successors : Phase → List Phase
  | .awaitingConnection => [.awaitingResponse, .cancelling, .terminated]
  | .awaitingResponse => [.established, .cancelling, .terminated]
  | .established | .cancelling => [.terminated]
  | .validating | .terminated => []

def Phase.Moves (p q : Phase) : Prop := q = p ∨ q ∈ p.successors

def Life.phases : Life → List Phase
  | .dialling => [.awaitingConnection]
  | .live => [.awaitingResponse, .established, .cancelling]
  | .gone => [.terminated]

structure Coherent (life : Life) (a : Attempt) : Prop where
  slots : Slots a a.phase
  phase_mem : a.phase ∈ life.phases

theorem Fresh.coherent {o : Options} {a : Attempt} (fresh : Fresh o a) :
    Coherent .dialling a := by
  constructor
  · rw [fresh.phase]
    refine ⟨?_, fresh.connection, fresh.stream, fresh.socket, fresh.failure, ?_⟩
    · rw [fresh.onSetup]
      exact fresh.reaction
    · simp [HeaderStore.headers, fresh.response]
  · simp [fresh.phase, Life.phases]

theorem Slots.release {a : Attempt} {p : Phase} (h : Slots a p)
    (unawaited : p ≠ .awaitingResponse) : Slots { a with stream := none } p := by
  cases p with
  | awaitingResponse => exact absurd rfl unawaited
  | awaitingConnection =>
    obtain ⟨setup, connection, -, rest⟩ := h
    exact ⟨setup, connection, rfl, rest⟩
  | validating => exact h
  | established =>
    obtain ⟨setup, connection, socket, -, rest⟩ := h
    exact ⟨setup, connection, socket, rfl, rest⟩
  | cancelling => exact h
  | terminated =>
    obtain ⟨setup, connection, -, rest⟩ := h
    exact ⟨setup, connection, rfl, rest⟩

theorem cancel_of_unfailed {a : Attempt} (unfailed : a.failure = none) (error : Error) :
    cancel a error =
      ({ a with failure := some error, phase := .cancelling },
        a.connection.toList.map Effect.close) := by
  simp [cancel, unfailed]

/-- A failure that is recorded while setup is pending on a connection. -/
theorem coherent_cancel {a : Attempt} (setup : a.onSetup.isSome)
    (connection : a.connection.isSome) (socket : a.socket = none) (unfailed : a.failure = none)
    (error : Error) : Coherent .live (cancel a error).1 := by
  rw [cancel_of_unfailed unfailed]
  constructor
  · exact ⟨setup, rfl, connection, socket⟩
  · simp [Life.phases]

/-- An upgrade is accepted only with a status that switches protocols, on a channel, and by the
factory. -/
theorem verdict_eq_ok {status : Option Status} {error : Option Error} {channel : Option ChannelId}
    {reply : HandlerReply} {socket : SocketId} :
    verdict status error channel reply = .ok socket ↔
      error = none ∧ status = some .switchingProtocols ∧ channel.isSome ∧
        reply = .installed socket := by
  unfold verdict
  cases error with
  | some error => simp
  | none =>
    by_cases switching : status = some .switchingProtocols
    · cases channel <;> cases reply <;> simp [switching]
    · simp [switching]

/-- The frame callbacks go to the factory with the request for a handler. -/
theorem judged_frameCallbacks {a : Attempt} {status : Option Status} {error : Option Error}
    {channel : Option ChannelId} {reply : HandlerReply} {socket : SocketId}
    (accepted : verdict status error channel reply = .ok socket) :
    (judged a status error channel).frameCallbacks = false := by
  obtain ⟨rfl, rfl, present, -⟩ := verdict_eq_ok.mp accepted
  obtain ⟨c, rfl⟩ := Option.isSome_iff_exists.mp present
  simp [judged, asked]

section Step

variable {a : Attempt}

theorem coherent_connected (h : Coherent .dialling a) (c : ConnectionId)
    (reply : RequestReply) :
    Coherent .live (onConnected a c reply).1 ∧
      a.phase.Moves (onConnected a c reply).1.phase := by
  have phase : a.phase = .awaitingConnection := by simpa [Life.phases] using h.phase_mem
  have slots := h.slots
  rw [phase] at slots
  obtain ⟨setup, -, -, socket, unfailed, -⟩ := slots
  cases reply with
  | accepted stream =>
    refine ⟨⟨⟨setup, rfl, rfl, socket, unfailed⟩, ?_⟩, ?_⟩
    · simp [onConnected, Life.phases]
    · simp [onConnected, phase, Phase.Moves, Phase.successors]
  | refused error =>
    constructor
    · exact coherent_cancel (a := { a with connection := some c }) setup rfl socket unfailed error
    · simp [onConnected, cancel_of_unfailed, unfailed, phase, Phase.Moves, Phase.successors]

theorem coherent_connectFailed (h : Coherent .dialling a) (error : Error) :
    Coherent .gone (onConnectFailed a error).1 ∧
      a.phase.Moves (onConnectFailed a error).1.phase := by
  have phase : a.phase = .awaitingConnection := by simpa [Life.phases] using h.phase_mem
  have slots := h.slots
  rw [phase] at slots
  obtain ⟨-, connection, stream, socket, -, -⟩ := slots
  refine ⟨⟨⟨rfl, connection, stream, rfl, socket⟩, ?_⟩, ?_⟩
  · simp [onConnectFailed, Life.phases]
  · simp [onConnectFailed, phase, Phase.Moves, Phase.successors]

theorem live_of_awaiting {life : Life} (h : Coherent life a)
    (awaiting : a.phase = .awaitingResponse) : life = .live := by
  have mem := h.phase_mem
  rw [awaiting] at mem
  cases life <;> simp_all [Life.phases]

theorem coherent_headers {life : Life} (h : Coherent life a) (status : Option Status)
    (batch : List Header) :
    Coherent life (onHeaders a status batch).1 ∧
      a.phase.Moves (onHeaders a status batch).1.phase := by
  unfold onHeaders
  split
  · exact ⟨h, .inl rfl⟩
  rename_i awaiting
  rw [Decidable.not_not] at awaiting
  have slots := h.slots
  rw [awaiting] at slots
  obtain ⟨setup, connection, stream, socket, unfailed⟩ := slots
  dsimp only
  split
  · refine ⟨⟨?_, h.phase_mem⟩, .inl rfl⟩
    dsimp only
    rw [awaiting]
    exact ⟨setup, connection, stream, socket, unfailed⟩
  · rename_i error _
    constructor
    · rw [live_of_awaiting h awaiting]
      apply coherent_cancel
      · exact setup
      · exact connection
      · exact socket
      · exact unfailed
    · rw [cancel_of_unfailed (by exact unfailed)]
      simp [awaiting, Phase.Moves, Phase.successors]

theorem coherent_completed {life : Life} (h : Coherent life a) (status : Option Status)
    (error : Option Error) (channel : Option ChannelId) (reply : HandlerReply) :
    Coherent life (onCompleted a status error channel reply).1 ∧
      a.phase.Moves (onCompleted a status error channel reply).1.phase := by
  by_cases awaiting : a.phase = .awaitingResponse
  · have slots := h.slots
    rw [awaiting] at slots
    obtain ⟨setup, connection, -, socket, unfailed⟩ := slots
    rw [onCompleted_awaiting awaiting, live_of_awaiting h awaiting]
    cases accepted : verdict status error channel reply with
    | error cause =>
      constructor
      · apply coherent_cancel
        · simpa using setup
        · simpa using connection
        · simpa using socket
        · simpa using unfailed
      · dsimp only
        rw [cancel_of_unfailed (by simpa using unfailed)]
        simp [awaiting, Phase.Moves, Phase.successors]
    | ok s =>
      refine ⟨⟨⟨rfl, ?_, rfl, ?_, ?_, ?_⟩, ?_⟩, ?_⟩
      · simpa [establish] using connection
      · simp [establish]
      · simpa [establish] using judged_frameCallbacks accepted
      · simpa [establish] using unfailed
      · simp [establish, Life.phases]
      · simp [establish, awaiting, Phase.Moves, Phase.successors]
  · rw [onCompleted_ignored awaiting]
    exact ⟨⟨h.slots.release awaiting, h.phase_mem⟩, .inl rfl⟩

theorem coherent_shutDown (h : Coherent .live a) (error : Option Error)
    (reported : a.onSetup.isSome → a.socket = none) :
    Coherent .gone (onShutDown a error).1 ∧
      a.phase.Moves (onShutDown a error).1.phase := by
  have moves : a.phase.Moves .terminated := by
    have mem := h.phase_mem
    simp only [Life.phases, List.mem_cons, List.not_mem_nil, or_false] at mem
    rcases mem with phase | phase | phase <;> simp [phase, Phase.Moves, Phase.successors]
  unfold onShutDown
  dsimp only
  split
  · rename_i reaction held
    refine ⟨⟨⟨rfl, rfl, rfl, rfl, ?_⟩, ?_⟩, moves⟩
    · exact reported (by simp [held])
    · simp [Life.phases]
  · rename_i told
    refine ⟨⟨⟨told, rfl, rfl, rfl, rfl⟩, ?_⟩, moves⟩
    simp [Life.phases]

/-- A WebSocket is there only once setup has been reported. -/
theorem Coherent.socket_none {life : Life} (h : Coherent life a)
    (pending : a.onSetup.isSome) : a.socket = none := by
  have slots := h.slots
  cases phase : a.phase with
  | awaitingConnection => rw [phase] at slots; exact slots.2.2.2.1
  | awaitingResponse => rw [phase] at slots; exact slots.2.2.2.1
  | validating => rw [phase] at slots; exact slots.elim
  | established => rw [phase] at slots; rw [slots.1] at pending; cases pending
  | cancelling => rw [phase] at slots; exact slots.2.2.2
  | terminated => rw [phase] at slots; exact slots.2.2.2.2

theorem coherent_step {life later : Life} {e : Event} (h : Coherent life a)
    (allowed : life.next? e = some later) :
    Coherent later (next a e).1 ∧ a.phase.Moves (next a e).1.phase := by
  cases e with
  | connected c reply =>
    cases life <;> cases allowed
    exact coherent_connected h c reply
  | connectFailed error =>
    cases life <;> cases allowed
    exact coherent_connectFailed h error
  | headers stream status batch =>
    obtain rfl : later = life := by cases life <;> cases allowed <;> rfl
    exact coherent_headers h status batch
  | completed stream status error channel reply =>
    obtain rfl : later = life := by cases life <;> cases allowed <;> rfl
    exact coherent_completed h status error channel reply
  | shutDown error =>
    cases life <;> cases allowed
    exact coherent_shutDown h error h.socket_none

end Step

theorem coherent_run {o : Options} {a : Attempt} (fresh : Fresh o a) {events : List Event}
    {life : Life} (h : Life.dialling.follow? events = some life) :
    Coherent life (run a events) := by
  refine contract_induction (fun life b _ => Coherent life b) fresh.coherent ?_ h
  intro life later b told e coherent allowed
  exact (coherent_step coherent allowed).1

/-- The setup callback is held until it is called, and it is called once. -/
theorem Standing.setups {o : Options} {reaction : SetupReaction} (given : o.onSetup = some reaction)
    {life : Life} {a : Attempt} {told : List Effect} (h : Standing o life a told) :
    told.countP Effect.isSetup = if a.onSetup.isSome then 0 else 1 := by
  cases h with
  | dialling _ setup => simp [setup, given]
  | pending setup => simp [setup, given]
  | established _ _ setup => simp [setup, Effect.isSetup]
  | failed _ _ setup => simp [setup, Effect.isSetup]
  | closed _ _ setup =>
    rw [setup]
    cases o.onShutdown <;> rfl

/-- Between the calls of a run that keeps the contract, the phase says what an attempt holds, and
setup has been reported exactly if its callback is not held any more. Each call leaves the phase
alone or moves it forward, and nothing leaves the last phase. -/
theorem phase_determines_slots {m : Allocator} {o : Options} {a : Attempt} {dial : Dial}
    (started : start m o = .ok (a, dial)) :
    (∀ events, KeepsContract events →
      Slots (run a events) (run a events).phase ∧
      (effects a events).countP Effect.isSetup =
        if (run a events).onSetup.isSome then 0 else 1) ∧
    ∀ events e, KeepsContract (events ++ [e]) →
      (run a events).phase.Moves (run a (events ++ [e])).phase := by
  have fresh := start_fresh started
  obtain ⟨reaction, given⟩ := Option.isSome_iff_exists.mp fresh.reaction
  constructor
  · intro events kept
    obtain ⟨life, led⟩ := Option.isSome_iff_exists.mp kept
    constructor
    · exact (coherent_run fresh led).slots
    · rw [count_setup_reports]
      exact (standing_run fresh led).setups given
  · intro events e kept
    obtain ⟨life, later, led, allowed, -⟩ := kept.split
    rw [run_concat]
    exact (coherent_step (coherent_run fresh led) allowed).2

/-- The server answers the upgrade request with a page, of which headers arrive in two batches. -/
def refusedRun : List Event :=
  [.connected 0 (.accepted 0), .headers 0 (some ⟨200, by decide, by decide⟩) [⟨[104], [97]⟩],
    .headers 0 (some ⟨200, by decide, by decide⟩) [⟨[104], [98]⟩],
    .completed 0 (some ⟨200, by decide, by decide⟩) none (some 2) (.installed 0)]

theorem refused_upgrade_slots :
    ∃ a dial, start (.doubling 4096) plainOptions = .ok (a, dial) ∧ KeepsContract refusedRun ∧
      Slots (run a refusedRun) .cancelling ∧
      Phase.Moves .cancelling (run a (refusedRun ++ [.shutDown none])).phase := by
  refine ⟨_, _, rfl, by decide, ?_⟩
  obtain ⟨slots, moves⟩ := phase_determines_slots (m := .doubling 4096) (o := plainOptions) rfl
  exact ⟨(slots refusedRun (by decide)).1, moves refusedRun (.shutDown none) (by decide)⟩

end WebSocketClient.Handshake
