import WebSocketClient.Framing.Handler
import WebSocketClient.Proofs.Handshake.Report

/-! # Establishment is all or nothing

A handler is asked for when everything else is in order, and setup reports a WebSocket exactly when
the factory made one. With a factory of framing handlers this is exactly when a handler is installed
on the channel, so an attempt that fails leaves none behind and calls no frame callback. -/
namespace WebSocketClient.Handshake

def Effect.asks? : Effect → Option HandlerOptions
  | newHandler options => some options
  | _ => none

def handlersAsked (told : List Effect) : List HandlerOptions := told.filterMap Effect.asks?

theorem mem_handlersAsked {told : List Effect} {options : HandlerOptions} :
    options ∈ handlersAsked told ↔ .newHandler options ∈ told := by
  rw [handlersAsked, List.mem_filterMap]
  constructor
  · rintro ⟨e, mem, asks⟩
    cases e <;> cases asks
    exact mem
  · intro mem
    exact ⟨_, mem, rfl⟩

@[simp] theorem handlersAsked_append (first rest : List Effect) :
    handlersAsked (first ++ rest) = handlersAsked first ++ handlersAsked rest :=
  List.filterMap_append ..

@[simp] theorem handlersAsked_setup (callbacks : List SetupReaction) (outcome : Outcome)
    (response : Response) : handlersAsked (callbacks.map (.setup · outcome response)) = [] := by
  simp [handlersAsked, Effect.asks?]

@[simp] theorem handlersAsked_shutdown (sockets : List SocketId) (error : Option Error) :
    handlersAsked (sockets.map (.shutdown · error)) = [] := by
  simp [handlersAsked, Effect.asks?]

@[simp] theorem handlersAsked_cancel (a : Attempt) (error : Error) :
    handlersAsked (cancel a error).2 = [] := by
  rw [handlersAsked, List.filterMap_eq_nil_iff]
  intro e he
  obtain ⟨c, rfl⟩ := mem_cancel a error he
  rfl

/-- The channel that comes with a response that accepts the upgrade. -/
def Event.channel? : Event → Option ChannelId
  | completed _ (some status) none channel _ =>
    if status = .switchingProtocols then channel else none
  | _ => none

theorem Event.channel?_eq_some {e : Event} {channel : ChannelId} :
    e.channel? = some channel ↔ ∃ stream reply,
      e = .completed stream (some .switchingProtocols) none (some channel) reply := by
  constructor
  · intro h
    cases e with
    | completed stream status error found reply =>
      cases error with
      | some => cases status <;> cases h
      | none =>
        cases status with
        | none => cases h
        | some status =>
          simp only [channel?] at h
          split at h
          · rename_i accepted
            rw [accepted, h]
            exact ⟨stream, reply, rfl⟩
          · cases h
    | _ => cases h
  · rintro ⟨stream, reply, rfl⟩
    rfl

theorem handlersAsked_asked (a : Attempt) (stream : StreamId) (status : Option Status)
    (error : Option Error) (channel : Option ChannelId) (reply : HandlerReply) :
    handlersAsked (asked a status error channel) =
      ((Event.completed stream status error channel reply).channel?.map
        (handlerOptions a)).toList := by
  cases error with
  | some error => cases status <;> rfl
  | none =>
    cases status with
    | none => rfl
    | some status =>
      by_cases accepted : status = .switchingProtocols
      · subst accepted
        cases channel <;> rfl
      · simp [asked, accepted, handlersAsked, Event.channel?]

/-- A call asks for a handler if it completes an awaited response that accepts the upgrade, and a
channel comes with it. -/
theorem handlersAsked_next (a : Attempt) (e : Event) :
    handlersAsked (next a e).2 =
      if a.phase = .awaitingResponse then (e.channel?.map (handlerOptions a)).toList else [] := by
  cases e with
  | connected c reply =>
    have quiet : handlersAsked (onConnected a c reply).2 = [] := by
      cases reply with
      | accepted stream => rfl
      | refused error => exact handlersAsked_cancel { a with connection := some c } error
    rw [next, quiet]
    simp [Event.channel?]
  | connectFailed error => simp [next, onConnectFailed, Event.channel?]
  | headers stream status batch =>
    have quiet : handlersAsked (onHeaders a status batch).2 = [] := by
      unfold onHeaders
      split
      · rfl
      · dsimp only
        split
        · rfl
        · exact handlersAsked_cancel ..
    rw [next, quiet]
    simp [Event.channel?]
  | completed stream status error channel reply =>
    by_cases awaiting : a.phase = .awaitingResponse
    · rw [next, onCompleted_awaiting awaiting, if_pos awaiting, ← handlersAsked_asked]
      cases verdict status error channel reply with
      | error cause => simp
      | ok socket => simp [establish]
    · rw [next, onCompleted_ignored awaiting, if_neg awaiting]
      rfl
  | shutDown error =>
    have quiet : handlersAsked (onShutDown a error).2 = [] := by
      unfold onShutDown
      dsimp only
      split
      · rfl
      · exact handlersAsked_shutdown ..
    rw [next, quiet]
    simp [Event.channel?]

theorem opened_iff {life : Life} {a : Attempt} (h : Coherent life a) {e : Event}
    {socket : SocketId} :
    (∃ reaction response, .setup reaction (.opened socket) response ∈ (next a e).2) ↔
      a.phase = .awaitingResponse ∧ ∃ stream channel,
        e = .completed stream (some .switchingProtocols) none (some channel) (.installed socket) :=
    by
  constructor
  · rintro ⟨reaction, response, told⟩
    obtain ⟨-, report⟩ := setup_told told
    cases report with
    | opened awaiting => exact ⟨awaiting, _, _, rfl⟩
  · rintro ⟨awaiting, stream, channel, rfl⟩
    have slots := h.slots
    rw [awaiting] at slots
    obtain ⟨reaction, held⟩ := Option.isSome_iff_exists.mp slots.1
    refine ⟨reaction, reported (judged a (some .switchingProtocols) none (some channel)), ?_⟩
    rw [next, onCompleted_awaiting awaiting]
    simp [verdict, establish, held]

structure Configured (o : Options) (life : Life) (a : Attempt) : Prop where
  initialWindow : a.initialWindow = o.initialWindow
  manualWindow : a.manualWindow = o.manualWindow
  frameCallbacks : life = .dialling ∨ a.phase = .awaitingResponse →
    a.frameCallbacks = o.hasAllFrameCallbacks

theorem next_windows (a : Attempt) (e : Event) :
    (next a e).1.initialWindow = a.initialWindow ∧
      (next a e).1.manualWindow = a.manualWindow := by
  cases e with
  | connected c reply => cases reply <;> simp [next, onConnected]
  | connectFailed error => exact ⟨rfl, rfl⟩
  | headers stream status batch =>
    simp only [next, onHeaders]
    split
    · exact ⟨rfl, rfl⟩
    · split
      · exact ⟨rfl, rfl⟩
      · simp
  | completed stream status error channel reply =>
    by_cases awaiting : a.phase = .awaitingResponse
    · rw [next, onCompleted_awaiting awaiting]
      cases verdict status error channel reply <;> simp [establish]
    · rw [next, onCompleted_ignored awaiting]
      exact ⟨rfl, rfl⟩
  | shutDown error =>
    simp only [next, onShutDown]
    split <;> exact ⟨rfl, rfl⟩

/-- A call after which a handler can still be asked for has not asked for one, and has left the
frame callbacks alone. -/
theorem next_waits {life later : Life} {a : Attempt} {e : Event} (h : Coherent life a)
    (allowed : life.next? e = some later)
    (waits : later = .dialling ∨ (next a e).1.phase = .awaitingResponse) :
    (life = .dialling ∨ a.phase = .awaitingResponse) ∧
      (next a e).1.frameCallbacks = a.frameCallbacks ∧ handlersAsked (next a e).2 = [] := by
  rcases waits with rfl | awaiting
  · obtain rfl : life = .dialling := by cases life <;> cases e <;> cases allowed <;> rfl
    have phase : a.phase = .awaitingConnection := by simpa [Life.phases] using h.phase_mem
    have streams : Life.gone.next? e = some .gone := by cases e <;> cases allowed <;> rfl
    obtain ⟨quiet, same⟩ := next_ignored (a := a) (by simp [phase]) streams
    rw [quiet, same]
    exact ⟨.inl rfl, rfl, rfl⟩
  · rw [handlersAsked_next]
    have takes := takes_next h allowed
    generalize (next a e).2 = told at takes
    cases takes with
    | failing _ _ cancelling =>
      rw [cancelling] at awaiting
      cases awaiting
    | going brings phase =>
      rw [phase] at awaiting
      cases e with
      | connected c reply =>
        obtain rfl : life = .dialling := by cases life <;> cases allowed; rfl
        cases reply with
        | accepted stream => exact ⟨.inl rfl, rfl, by simp [Event.channel?]⟩
        | refused error => cases brings
      | headers stream status batch =>
        refine ⟨.inr (by simpa [Event.awaits] using awaiting), ?_, by simp [Event.channel?]⟩
        simp only [next, onHeaders]
        split
        · rfl
        · split
          · rfl
          · simp
      | _ => cases awaiting

theorem configured_run {o : Options} {a : Attempt} (fresh : Fresh o a) {events : List Event}
    {life : Life} (led : Life.dialling.follow? events = some life) :
    Configured o life (run a events) := by
  refine (contract_induction (fun life b _ => Coherent life b ∧ Configured o life b) ?_ ?_ led).2
  · exact ⟨fresh.coherent, fresh.initialWindow, fresh.manualWindow, fun _ => fresh.frameCallbacks⟩
  · rintro life later b told e ⟨coherent, configured⟩ allowed
    obtain ⟨initial, manual⟩ := next_windows b e
    refine ⟨(coherent_step coherent allowed).1, ?_, ?_, ?_⟩
    · exact initial.trans configured.initialWindow
    · exact manual.trans configured.manualWindow
    · intro waits
      obtain ⟨waited, same, -⟩ := next_waits coherent allowed waits
      exact same.trans (configured.frameCallbacks waited)

/-- Asking for a handler ends the wait for a response, and there is only one such wait. -/
theorem handlersAsked_at_most_once {o : Options} {a : Attempt} (fresh : Fresh o a)
    {events : List Event} {life : Life} (led : Life.dialling.follow? events = some life) :
    (handlersAsked (effects a events)).length +
      (if life = .dialling ∨ (run a events).phase = .awaitingResponse then 1 else 0) ≤ 1 := by
  refine (contract_induction (fun life b told => Coherent life b ∧
    (handlersAsked told).length + (if life = .dialling ∨ b.phase = .awaitingResponse then 1 else 0)
      ≤ 1) ⟨fresh.coherent, by simp [handlersAsked]⟩ ?_ led).2
  rintro life later b told e ⟨coherent, bound⟩ allowed
  refine ⟨(coherent_step coherent allowed).1, ?_⟩
  rw [handlersAsked_append, List.length_append]
  by_cases waits : later = .dialling ∨ (next b e).1.phase = .awaitingResponse
  · obtain ⟨waited, -, quiet⟩ := next_waits coherent allowed waits
    rw [if_pos waited] at bound
    rw [if_pos waits, quiet]
    exact bound
  · rw [if_neg waits, handlersAsked_next]
    by_cases awaiting : b.phase = .awaitingResponse
    · rw [if_pos (.inr awaiting)] at bound
      have one : (e.channel?.map (handlerOptions b)).toList.length ≤ 1 := by
        cases e.channel? <;> simp
      rw [if_pos awaiting]
      omega
    · rw [if_neg awaiting]
      simp only [List.length_nil]
      split at bound <;> omega

end WebSocketClient.Handshake
