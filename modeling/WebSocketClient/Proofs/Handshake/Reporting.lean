import WebSocketClient.Proofs.Handshake.Contract
import WebSocketClient.Proofs.Handshake.Step

/-! # What the user is told

An attempt reports to its user through two callbacks. Each is called at most once, whatever order
the calls on the attempt come in. If they keep the contract of the connection, the setup callback
is called exactly once, and the shutdown callback exactly when setup has reported a WebSocket. -/
namespace WebSocketClient.Handshake

namespace Effect

def isSetup : Effect → Bool
  | setup _ _ _ => true
  | _ => false

def isShutdown : Effect → Bool
  | shutdown _ _ => true
  | _ => false

def isReport (e : Effect) : Bool := e.isSetup || e.isShutdown

end Effect

def reports (told : List Effect) : List Effect := told.filter Effect.isReport

@[simp] theorem reports_append (first rest : List Effect) :
    reports (first ++ rest) = reports first ++ reports rest := List.filter_append ..

theorem mem_reports_setup {told : List Effect} {reaction outcome response} :
    .setup reaction outcome response ∈ reports told ↔ .setup reaction outcome response ∈ told := by
  simp [reports, Effect.isReport, Effect.isSetup]

theorem mem_reports_shutdown {told : List Effect} {socket error} :
    .shutdown socket error ∈ reports told ↔ .shutdown socket error ∈ told := by
  simp [reports, Effect.isReport, Effect.isShutdown]

theorem count_setup_reports (told : List Effect) :
    told.countP Effect.isSetup = (reports told).countP Effect.isSetup := by
  rw [reports, List.countP_filter]
  exact List.countP_congr fun e _ => by simp [Effect.isReport]; tauto

theorem count_shutdown_reports (told : List Effect) :
    told.countP Effect.isShutdown = (reports told).countP Effect.isShutdown := by
  rw [reports, List.countP_filter]
  exact List.countP_congr fun e _ => by simp [Effect.isReport]; tauto

/-- After this call the connection is gone for good. -/
def Event.ends : Event → Bool
  | connectFailed _ | shutDown _ => true
  | _ => false

inductive Told (a : Attempt) : Event → Attempt → List Effect → Prop
  | nothing {e b} (goesOn : e.ends = false) (setup : b.onSetup = a.onSetup)
      (shutdown : b.onShutdown = a.onShutdown) (socket : b.socket = a.socket) : Told a e b []
  | unconnected {error b} (phase : b.phase = .terminated) (setup : b.onSetup = none)
      (shutdown : b.onShutdown = a.onShutdown) :
      Told a (.connectFailed error) b
        (a.onSetup.toList.map (.setup · (.failed error) Response.none))
  | opened {stream status error channel reply socket response b} (phase : b.phase = .established)
      (setup : b.onSetup = none) (shutdown : b.onShutdown = a.onShutdown)
      (socket_eq : b.socket = some socket) :
      Told a (.completed stream status error channel reply) b
        (a.onSetup.toList.map (.setup · (.opened socket) response))
  | failed {error cause reaction response b} (held : a.onSetup = some reaction)
      (phase : b.phase = .terminated) (setup : b.onSetup = none)
      (shutdown : b.onShutdown = a.onShutdown) :
      Told a (.shutDown error) b [.setup reaction (.failed cause) response]
  | closed {error b} (held : a.onSetup = none) (phase : b.phase = .terminated)
      (setup : b.onSetup = none) (shutdown : b.onShutdown = false) :
      Told a (.shutDown error) b
        ((if a.onShutdown then a.socket.toList else []).map (.shutdown · error))

@[simp] theorem reports_cancel (a : Attempt) (error : Error) :
    reports (cancel a error).2 = [] := by
  rw [reports, List.filter_eq_nil_iff]
  intro e he
  obtain ⟨c, rfl⟩ := mem_cancel a error he
  simp [Effect.isReport, Effect.isSetup, Effect.isShutdown]

@[simp] theorem reports_asked (a : Attempt) (status : Option Status) (error : Option Error)
    (channel : Option ChannelId) : reports (asked a status error channel) = [] := by
  rw [reports, List.filter_eq_nil_iff]
  intro e he
  obtain ⟨options, rfl⟩ := mem_asked a status error channel he
  simp [Effect.isReport, Effect.isSetup, Effect.isShutdown]

@[simp] theorem reports_setup (callbacks : List SetupReaction) (outcome : Outcome)
    (response : Response) :
    reports (callbacks.map (.setup · outcome response)) =
      callbacks.map (.setup · outcome response) := by
  simp [reports, Effect.isReport, Effect.isSetup]

@[simp] theorem reports_shutdown (sockets : List SocketId) (error : Option Error) :
    reports (sockets.map (.shutdown · error)) = sockets.map (.shutdown · error) := by
  simp [reports, Effect.isReport, Effect.isShutdown]

theorem told_connected (a : Attempt) (c : ConnectionId) (reply : RequestReply) :
    Told a (.connected c reply) (onConnected a c reply).1 (reports (onConnected a c reply).2) := by
  cases reply with
  | accepted stream => exact .nothing rfl rfl rfl rfl
  | refused error =>
    have quiet : reports (onConnected a c (.refused error)).2 = [] :=
      reports_cancel { a with connection := some c } error
    rw [quiet]
    exact .nothing rfl (cancel_onSetup ..) (cancel_onShutdown ..) (cancel_socket ..)

theorem told_headers (a : Attempt) (stream : StreamId) (status : Option Status)
    (batch : List Header) :
    Told a (.headers stream status batch) (onHeaders a status batch).1
      (reports (onHeaders a status batch).2) := by
  unfold onHeaders
  split
  · exact .nothing rfl rfl rfl rfl
  dsimp only
  split
  · exact .nothing rfl rfl rfl rfl
  · rw [reports_cancel]
    exact .nothing rfl (cancel_onSetup ..) (cancel_onShutdown ..) (cancel_socket ..)

theorem told_completed (a : Attempt) (stream : StreamId) (status : Option Status)
    (error : Option Error) (channel : Option ChannelId) (reply : HandlerReply) :
    Told a (.completed stream status error channel reply)
      (onCompleted a status error channel reply).1
      (reports (onCompleted a status error channel reply).2) := by
  by_cases h : a.phase = .awaitingResponse
  · rw [onCompleted_awaiting h]
    cases verdict status error channel reply with
    | error cause =>
      simp only [reports_append, reports_asked, reports_cancel, List.append_nil]
      exact .nothing rfl (by simp) (by simp) (by simp)
    | ok socket =>
      simp only [establish, reports_append, reports_asked, reports_setup, List.nil_append,
        judged_onSetup]
      exact .opened rfl rfl (judged_onShutdown ..) rfl
  · rw [onCompleted_ignored h]
    exact .nothing rfl rfl rfl rfl

theorem told_shutDown (a : Attempt) (error : Option Error) :
    Told a (.shutDown error) (onShutDown a error).1 (reports (onShutDown a error).2) := by
  unfold onShutDown
  dsimp only
  split
  · rename_i reaction held
    exact .failed held rfl rfl rfl
  · rename_i held
    rw [reports_shutdown]
    exact .closed held rfl held rfl

theorem next_told (a : Attempt) (e : Event) : Told a e (next a e).1 (reports (next a e).2) := by
  cases e with
  | connected c reply => exact told_connected a c reply
  | connectFailed error =>
    simp only [next, onConnectFailed, reports_setup]
    exact .unconnected rfl rfl rfl
  | headers stream status batch => exact told_headers a stream status batch
  | completed stream status error channel reply =>
    exact told_completed a stream status error channel reply
  | shutDown error => exact told_shutDown a error

/-- A callback that is called is no longer held afterwards, and none is ever taken up again. So what
is held bounds the calls that are still to come. -/
theorem count_effects_le (kind : Effect → Bool) (held : Attempt → Nat)
    (step : ∀ a e, (next a e).2.countP kind + held (next a e).1 ≤ held a)
    (a : Attempt) (events : List Event) : (effects a events).countP kind ≤ held a := by
  induction events generalizing a with
  | nil => simp [effects]
  | cons e rest ih =>
    have now := step a e
    have later := ih (next a e).1
    rw [effects, List.countP_append]
    omega

theorem setups_at_most_held (a : Attempt) (events : List Event) :
    (effects a events).countP Effect.isSetup ≤ a.onSetup.toList.length := by
  refine count_effects_le _ (·.onSetup.toList.length) (fun a e => ?_) a events
  rw [count_setup_reports]
  have h := next_told a e
  generalize (next a e).1 = b at h ⊢
  generalize reports (next a e).2 = told at h ⊢
  cases h with
  | nothing _ setup => simp [setup]
  | unconnected _ setup => cases held : a.onSetup <;> simp [setup, Effect.isSetup]
  | opened _ setup => cases held : a.onSetup <;> simp [setup, Effect.isSetup]
  | failed held _ setup => simp [setup, held, Effect.isSetup]
  | closed held _ setup => simp [setup, held, List.countP_map, Function.comp_def, Effect.isSetup]

theorem shutdowns_at_most_held (a : Attempt) (events : List Event) :
    (effects a events).countP Effect.isShutdown ≤ a.onShutdown.toNat := by
  refine count_effects_le _ (·.onShutdown.toNat) (fun a e => ?_) a events
  rw [count_shutdown_reports]
  have h := next_told a e
  generalize (next a e).1 = b at h ⊢
  generalize reports (next a e).2 = told at h ⊢
  cases h with
  | nothing _ _ shutdown => simp [shutdown]
  | unconnected _ _ shutdown => cases a.onSetup <;> simp [shutdown, Effect.isShutdown]
  | opened _ _ shutdown => cases a.onSetup <;> simp [shutdown, Effect.isShutdown]
  | failed _ _ _ shutdown => simp [shutdown, Effect.isShutdown]
  | closed _ _ _ shutdown =>
    cases a.onShutdown <;> cases a.socket <;> simp [shutdown, Effect.isShutdown]

/-- The setup callback that is called is the one that is held. -/
theorem setup_is_held {a : Attempt} {events : List Event} {reaction outcome response}
    (h : .setup reaction outcome response ∈ effects a events) : a.onSetup = some reaction := by
  induction events generalizing a with
  | nil => simp [effects] at h
  | cons e rest ih =>
    rw [effects, List.mem_append, ← mem_reports_setup] at h
    have t := next_told a e
    generalize (next a e).1 = b at h t
    generalize reports (next a e).2 = told at h t
    rcases h with now | later
    · cases t with
      | nothing => simp at now
      | unconnected => simp_all
      | opened => simp_all
      | failed held => simp_all
      | closed => simp at now
    · have held := ih later
      cases t with
      | nothing _ setup => exact setup.symm.trans held
      | unconnected _ setup => simp [setup] at held
      | opened _ setup => simp [setup] at held
      | failed _ _ setup => simp [setup] at held
      | closed _ _ setup => simp [setup] at held

/-- Where a run that keeps the contract can stand, and all that the user has been told by then. -/
inductive Standing (o : Options) : Life → Attempt → List Effect → Prop
  | dialling {a} (phase : a.phase = .awaitingConnection) (setup : a.onSetup = o.onSetup)
      (shutdown : a.onShutdown = o.onShutdown) (socket : a.socket = none) :
      Standing o .dialling a []
  | pending {a} (setup : a.onSetup = o.onSetup) (shutdown : a.onShutdown = o.onShutdown)
      (socket : a.socket = none) : Standing o .live a []
  | established {a reaction socket response} (given : o.onSetup = some reaction)
      (phase : a.phase = .established) (setup : a.onSetup = none)
      (shutdown : a.onShutdown = o.onShutdown) (socket_eq : a.socket = some socket) :
      Standing o .live a [.setup reaction (.opened socket) response]
  | failed {a reaction cause response} (given : o.onSetup = some reaction)
      (phase : a.phase = .terminated) (setup : a.onSetup = none) :
      Standing o .gone a [.setup reaction (.failed cause) response]
  | closed {a reaction socket response error} (given : o.onSetup = some reaction)
      (phase : a.phase = .terminated) (setup : a.onSetup = none) :
      Standing o .gone a
        (.setup reaction (.opened socket) response ::
          if o.onShutdown then [.shutdown socket error] else [])

/-- A stream that calls while no response is awaited makes no difference. -/
theorem next_ignored {a : Attempt} {e : Event} {life : Life} (phase : a.phase ≠ .awaitingResponse)
    (h : Life.gone.next? e = some life) :
    (next a e).2 = [] ∧ (next a e).1 = { a with stream := (next a e).1.stream } := by
  obtain ⟨-, ⟨s, status, batch, rfl⟩ | ⟨s, status, error, channel, reply, rfl⟩⟩ :=
    Life.gone_next? h
  · simp [next, onHeaders, phase]
  · simp [next, onCompleted_ignored phase]

/-- The calls that only streams make are the ones that are allowed at the end as well. -/
theorem gone_next?_of_stream {life later : Life} {e : Event} (h : life.next? e = some later)
    (goesOn : e.ends = false) (unconnected : ∀ c reply, e ≠ .connected c reply) :
    later = life ∧ Life.gone.next? e = some .gone := by
  cases e with
  | connected c reply => exact absurd rfl (unconnected c reply)
  | connectFailed => cases goesOn
  | shutDown => cases goesOn
  | headers => cases life <;> cases h <;> exact ⟨rfl, rfl⟩
  | completed => cases life <;> cases h <;> exact ⟨rfl, rfl⟩

theorem standing_dialling {o : Options} {reaction : SetupReaction}
    (given : o.onSetup = some reaction) {later : Life} {a : Attempt} {e : Event}
    (phase : a.phase = .awaitingConnection) (setup : a.onSetup = o.onSetup)
    (shutdown : a.onShutdown = o.onShutdown) (socket : a.socket = none)
    (allowed : Life.dialling.next? e = some later) :
    Standing o later (next a e).1 (reports (next a e).2) := by
  have t := next_told a e
  cases e with
  | connected c reply =>
    cases allowed
    generalize (next a (.connected c reply)).1 = b at t ⊢
    generalize reports (next a (.connected c reply)).2 = told at t ⊢
    cases t with
    | nothing _ hs hd hk => exact .pending (hs.trans setup) (hd.trans shutdown) (hk.trans socket)
  | connectFailed error =>
    cases allowed
    simp only [next, onConnectFailed, setup, given, reports_setup]
    exact .failed given rfl rfl
  | shutDown error => cases allowed
  | headers | completed =>
    obtain ⟨rfl, heard⟩ := gone_next?_of_stream allowed rfl (by simp)
    obtain ⟨quiet, same⟩ := next_ignored (a := a) (by simp [phase]) heard
    rw [quiet, same]
    exact .dialling phase setup shutdown socket

theorem standing_pending {o : Options} {reaction : SetupReaction}
    (given : o.onSetup = some reaction) {later : Life} {a : Attempt} {e : Event}
    (setup : a.onSetup = o.onSetup) (shutdown : a.onShutdown = o.onShutdown)
    (socket : a.socket = none) (allowed : Life.live.next? e = some later) :
    Standing o later (next a e).1 (reports (next a e).2) := by
  have t := next_told a e
  generalize (next a e).1 = b at t ⊢
  generalize reports (next a e).2 = told at t ⊢
  cases t with
  | nothing goesOn hs hd hk =>
    have stays : later = .live := by cases e <;> simp_all [Life.next?, Event.ends]
    rw [stays]
    exact .pending (hs.trans setup) (hd.trans shutdown) (hk.trans socket)
  | unconnected => cases allowed
  | opened phase hs hd hk =>
    cases allowed
    rw [setup, given]
    exact .established given phase hs (hd.trans shutdown) hk
  | failed held phase hs =>
    cases allowed
    exact .failed (setup.symm.trans held) phase hs
  | closed held => simp [setup, given] at held

theorem standing_established {o : Options} {reaction : SetupReaction}
    (given : o.onSetup = some reaction) {later : Life} {a : Attempt} {socket : SocketId}
    {response : Response} {e : Event} (phase : a.phase = .established) (setup : a.onSetup = none)
    (shutdown : a.onShutdown = o.onShutdown) (socket_eq : a.socket = some socket)
    (allowed : Life.live.next? e = some later) :
    Standing o later (next a e).1
      (.setup reaction (.opened socket) response :: reports (next a e).2) := by
  cases e with
  | connected | connectFailed => cases allowed
  | shutDown error =>
    cases allowed
    have h : Standing o .gone (next a (.shutDown error)).1
        (.setup reaction (.opened socket) response ::
          if o.onShutdown then [.shutdown socket error] else []) :=
      .closed given (by simp [next, onShutDown, setup]) (by simp [next, onShutDown, setup])
    have told : reports (next a (.shutDown error)).2 =
        if o.onShutdown then [.shutdown socket error] else [] := by
      simp only [next, onShutDown, setup, shutdown, socket_eq, reports_shutdown]
      cases o.onShutdown <;> rfl
    rwa [told]
  | headers | completed =>
    obtain ⟨rfl, heard⟩ := gone_next?_of_stream allowed rfl (by simp)
    obtain ⟨quiet, same⟩ := next_ignored (a := a) (by simp [phase]) heard
    rw [quiet, same]
    exact .established given phase setup shutdown socket_eq

/-- One call. A connection that is over cannot call any more, and its streams are not heard. -/
theorem standing_step {o : Options} {reaction : SetupReaction} (given : o.onSetup = some reaction)
    {life later : Life} {a : Attempt} {told : List Effect} {e : Event} (h : Standing o life a told)
    (allowed : life.next? e = some later) :
    Standing o later (next a e).1 (told ++ reports (next a e).2) := by
  cases h with
  | dialling phase setup shutdown socket =>
    exact standing_dialling given phase setup shutdown socket allowed
  | pending setup shutdown socket => exact standing_pending given setup shutdown socket allowed
  | established given phase setup shutdown socket_eq =>
    exact standing_established given phase setup shutdown socket_eq allowed
  | failed given phase setup =>
    obtain ⟨quiet, same⟩ := next_ignored (a := a) (by simp [phase]) allowed
    rw [quiet, same, (Life.gone_next? allowed).1]
    exact .failed given phase setup
  | closed given phase setup =>
    obtain ⟨quiet, same⟩ := next_ignored (a := a) (by simp [phase]) allowed
    rw [quiet, same, (Life.gone_next? allowed).1, reports, List.filter_nil, List.append_nil]
    exact .closed given phase setup

theorem standing_run {o : Options} {a : Attempt} (fresh : Fresh o a) {events : List Event}
    {life : Life} (h : Life.dialling.follow? events = some life) :
    Standing o life (run a events) (reports (effects a events)) := by
  obtain ⟨reaction, given⟩ := Option.isSome_iff_exists.mp fresh.reaction
  refine contract_induction (fun life b told => Standing o life b (reports told)) ?_ ?_ h
  · exact .dialling fresh.phase fresh.onSetup fresh.onShutdown fresh.socket
  · intro life later b told e standing allowed
    rw [reports_append]
    exact standing_step given standing allowed

theorem KeepsContract.split {events rest : List Event} {e : Event}
    (h : KeepsContract (events ++ e :: rest)) :
    ∃ life later, Life.dialling.follow? events = some life ∧ life.next? e = some later ∧
      (later.follow? rest).isSome := by
  rw [KeepsContract, Life.follow?_append] at h
  cases hl : Life.dialling.follow? events with
  | none => simp [hl] at h
  | some life =>
    cases hn : life.next? e with
    | none => simp [hl, Life.follow?, hn] at h
    | some later => exact ⟨life, later, rfl, hn, by simpa [hl, Life.follow?, hn] using h⟩

theorem next?_of_ends {life later : Life} {e : Event} (h : life.next? e = some later)
    (ends : e.ends = true) : later = .gone := by
  cases e <;> cases life <;> simp_all [Life.next?, Event.ends]

theorem Standing.terminated {o : Options} {a : Attempt} {told : List Effect}
    (h : Standing o .gone a told) : a.phase = .terminated := by
  cases h with
  | failed _ phase => exact phase
  | closed _ phase => exact phase

/-- When a connection shuts down, setup is still pending or has reported a WebSocket. -/
theorem Standing.of_shutDown {o : Options} {life later : Life} {a : Attempt} {told : List Effect}
    {error : Option Error} (h : Standing o life a told)
    (allowed : life.next? (.shutDown error) = some later) :
    (told = [] ∧ a.onSetup = o.onSetup) ∨
    ∃ reaction socket response, told = [.setup reaction (.opened socket) response] ∧
      a.onSetup = none ∧ a.onShutdown = o.onShutdown ∧ a.socket = some socket := by
  cases h with
  | dialling | failed | closed => cases allowed
  | pending setup => exact .inl ⟨rfl, setup⟩
  | established _ _ setup shutdown socket_eq =>
    exact .inr ⟨_, _, _, rfl, setup, shutdown, socket_eq⟩

theorem Standing.setup_count {o : Options} {a : Attempt} {told : List Effect}
    (h : Standing o .gone a told) : told.countP Effect.isSetup = 1 := by
  cases h with
  | failed => rfl
  | closed => cases o.onShutdown <;> rfl

theorem effects_of_terminated {a : Attempt} (phase : a.phase = .terminated) {events : List Event}
    (h : (Life.gone.follow? events).isSome) : effects a events = [] := by
  induction events generalizing a with
  | nil => rfl
  | cons e rest ih =>
    obtain ⟨life, allowed, h⟩ : ∃ life, Life.gone.next? e = some life ∧
        (life.follow? rest).isSome := by
      cases hn : Life.gone.next? e <;> simp_all [Life.follow?]
    obtain ⟨quiet, same⟩ := next_ignored (a := a) (by simp [phase]) allowed
    rw [(Life.gone_next? allowed).1] at h
    rw [effects, quiet, ih (by rw [same]; exact phase) h]
    rfl

/-- A shutdown is told of the WebSocket that is held, and of nothing else. -/
theorem shutdown_told {a : Attempt} {e : Event} {socket : SocketId} {error : Option Error}
    (h : .shutdown socket error ∈ (next a e).2) :
    e = .shutDown error ∧ a.onSetup = none ∧ a.onShutdown = true ∧ a.socket = some socket := by
  rw [← mem_reports_shutdown] at h
  have t := next_told a e
  generalize (next a e).1 = b at t
  generalize reports (next a e).2 = told at h t
  cases t with
  | nothing => simp at h
  | unconnected => simp at h
  | opened => simp at h
  | failed => simp at h
  | closed held =>
    cases hd : a.onShutdown <;> simp [hd] at h
    exact ⟨by rw [h.2], held, rfl, h.1⟩

section Contract

variable {o : Options} {a : Attempt} {events : List Event}

/-- A run that keeps the contract, just before its last call. -/
theorem standing_before (fresh : Fresh o a) {e : Event} {rest : List Event}
    (kept : KeepsContract (events ++ e :: rest)) :
    ∃ reaction life later, o.onSetup = some reaction ∧ life.next? e = some later ∧
      (later.follow? rest).isSome ∧ Standing o life (run a events) (reports (effects a events)) := by
  obtain ⟨reaction, given⟩ := Option.isSome_iff_exists.mp fresh.reaction
  obtain ⟨life, later, led, allowed, kept⟩ := kept.split
  exact ⟨reaction, life, later, given, allowed, kept, standing_run fresh led⟩

theorem setup_by_end (fresh : Fresh o a) {e : Event} (kept : KeepsContract (events ++ [e]))
    (ends : e.ends = true) : (effects a (events ++ [e])).countP Effect.isSetup = 1 := by
  obtain ⟨reaction, life, later, given, allowed, -, before⟩ := standing_before fresh kept
  have after := standing_step given before allowed
  rw [next?_of_ends allowed ends] at after
  rw [count_setup_reports, effects_concat, reports_append]
  exact after.setup_count

theorem shutdown_of_opened (fresh : Fresh o a) {e : Event} (kept : KeepsContract (events ++ [e]))
    {socket : SocketId} {error : Option Error}
    (told : .shutdown socket error ∈ (next (run a events) e).2) :
    e = .shutDown error ∧ o.onShutdown = true ∧
      ∃ reaction response, .setup reaction (.opened socket) response ∈ effects a events := by
  obtain ⟨reaction, life, later, given, allowed, -, before⟩ := standing_before fresh kept
  obtain ⟨rfl, quiet, configured, held⟩ := shutdown_told told
  rcases before.of_shutDown allowed with ⟨-, pending⟩ | ⟨r, s, response, heard, -, hd, hk⟩
  · simp [quiet, given] at pending
  · obtain rfl : s = socket := by simpa [held] using hk.symm
    refine ⟨rfl, hd.symm.trans configured, r, response, ?_⟩
    rw [← mem_reports_setup, heard]
    exact List.mem_singleton_self _

theorem opened_is_shut_down (fresh : Fresh o a) {error : Option Error}
    (kept : KeepsContract (events ++ [.shutDown error])) {reaction : SetupReaction}
    {socket : SocketId} {response : Response}
    (told : .setup reaction (.opened socket) response ∈ effects a events) :
    (next (run a events) (.shutDown error)).2 =
      if o.onShutdown then [.shutdown socket error] else [] := by
  obtain ⟨-, life, later, -, allowed, -, before⟩ := standing_before fresh kept
  rw [← mem_reports_setup] at told
  rcases before.of_shutDown allowed with ⟨heard, -⟩ | ⟨r, s, answer, heard, hs, hd, hk⟩
  · simp [heard] at told
  · obtain ⟨-, rfl, -⟩ : reaction = r ∧ socket = s ∧ response = answer := by
      simpa [heard] using told
    simp only [next, onShutDown, hs, hd, hk]
    cases o.onShutdown <;> rfl

theorem quiet_after_end (fresh : Fresh o a) {e : Event} {later : List Event}
    (kept : KeepsContract (events ++ e :: later)) (ends : e.ends = true) :
    effects (next (run a events) e).1 later = [] := by
  obtain ⟨reaction, life, last, given, allowed, still, before⟩ := standing_before fresh kept
  have after := standing_step given before allowed
  rw [next?_of_ends allowed ends] at after still
  exact effects_of_terminated after.terminated still

end Contract

/-- Whatever calls come, in whatever order, each callback of the user is called at most once. If the
calls keep the contract, setup is reported exactly once by the end, shutdown is reported by the end
and for the WebSocket that setup reported, and nothing at all happens after the end. -/
theorem reports_exactly_once {m : Allocator} {o : Options} {a : Attempt} {dial : Dial}
    (started : start m o = .ok (a, dial)) :
    (∀ events,
      (effects a events).countP Effect.isSetup ≤ 1 ∧
      (effects a events).countP Effect.isShutdown ≤ 1 ∧
      ∀ reaction outcome response, .setup reaction outcome response ∈ effects a events →
        o.onSetup = some reaction) ∧
    ∀ events e, KeepsContract (events ++ [e]) →
      let before := run a events
      (e.ends = true → (effects a (events ++ [e])).countP Effect.isSetup = 1) ∧
      (∀ socket error, .shutdown socket error ∈ (next before e).2 →
        e = .shutDown error ∧ o.onShutdown = true ∧
        ∃ reaction response, .setup reaction (.opened socket) response ∈ effects a events) ∧
      (∀ reaction socket response error,
        .setup reaction (.opened socket) response ∈ effects a events → e = .shutDown error →
        (next before e).2 = if o.onShutdown then [.shutdown socket error] else []) ∧
      (e.ends = true → ∀ later, KeepsContract (events ++ e :: later) →
        effects (next before e).1 later = []) := by
  have fresh := start_fresh started
  obtain ⟨reaction, given⟩ := Option.isSome_iff_exists.mp fresh.reaction
  constructor
  · intro events
    refine ⟨?_, ?_, ?_⟩
    · have held := setups_at_most_held a events
      rw [fresh.onSetup, given] at held
      exact held
    · exact Nat.le_trans (shutdowns_at_most_held a events) (Bool.toNat_le _)
    · intro reaction outcome response told
      exact fresh.onSetup.symm.trans (setup_is_held told)
  · intro events e kept
    refine ⟨?_, ?_, ?_, ?_⟩
    · intro ends
      exact setup_by_end fresh kept ends
    · intro socket error told
      exact shutdown_of_opened fresh kept told
    · intro reaction socket response error told shut
      subst shut
      exact opened_is_shut_down fresh kept told
    · intro ends later kept
      exact quiet_after_end fresh kept ends

def plainOptions : Options :=
  { Options.empty with
    service := some .scripted
    socket := some SocketOptions.initial
    url := some ⟨['w', 's'], some ⟨[], [], some (.domain ['a']), none⟩, ['/'], none, none⟩
    headers := [⟨[104], [97]⟩]
    onSetup := some ⟨[], none, false⟩
    onShutdown := true }

def plainRun : List Event :=
  [.connected 0 (.accepted 0), .headers 0 (some .switchingProtocols) [⟨[104], [97]⟩],
    .completed 0 (some .switchingProtocols) none (some 2) (.installed 0),
    .headers 0 none [⟨[104], [98]⟩]]

theorem plain_run_reports :
    ∃ a dial, start (.doubling 4096) plainOptions = .ok (a, dial) ∧
      KeepsContract (plainRun ++ [.shutDown (some .connectionClosed)]) ∧
      (effects a (plainRun ++ [.shutDown (some .connectionClosed)])).countP Effect.isSetup = 1 ∧
      (next (run a plainRun) (.shutDown (some .connectionClosed))).2 =
        [.shutdown 0 (some .connectionClosed)] := by
  refine ⟨_, _, rfl, by decide, ?_⟩
  have kept : KeepsContract (plainRun ++ [.shutDown (some .connectionClosed)]) := by decide
  obtain ⟨once, -, shutdown, -⟩ :=
    (reports_exactly_once (m := .doubling 4096) (o := plainOptions) rfl).2 _ _ kept
  refine ⟨once rfl, ?_⟩
  exact shutdown ⟨[], none, false⟩ 0 ⟨some .switchingProtocols, [⟨[104], [97]⟩]⟩ _ (by decide) rfl

end WebSocketClient.Handshake
