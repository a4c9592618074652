import WebSocketClient.Proofs.Handshake.Representation

/-! # Failed attempts

Once there is a connection, the first failure closes it, and nothing closes it again. Setup reports
the failure when the connection has shut down, and not before. -/
namespace WebSocketClient.Handshake

namespace Event

def connection? : Event → Option ConnectionId
  | connected c _ => some c
  | _ => none

/-- Whether a response is awaited after a call: a request has been accepted, and since then neither
its stream has completed nor its connection shut down. -/
def awaits (awaited : Bool) : Event → Bool
  | connected _ (.accepted _) => true
  | headers _ _ _ => awaited
  | _ => false

/-- The failure that a call brings to an attempt: a refused request, a batch of headers that cannot
be copied, or a completion that comes to no WebSocket. -/
def failure? (a : Attempt) (awaited : Bool) : Event → Option Error
  | connected _ (.refused error) => some error
  | headers _ _ batch =>
    match awaited, (a.response.pushAll batch).answer with
    | true, .error error => some error
    | _, _ => none
  | completed _ status error channel reply =>
    match awaited, verdict status error channel reply with
    | true, .error cause => some cause
    | _, _ => none
  | _ => none

end Event

def Effect.closed? : Effect → Option ConnectionId
  | close c => some c
  | _ => none

def closes (told : List Effect) : List ConnectionId := told.filterMap Effect.closed?

def delivered? (events : List Event) : Option ConnectionId := events.findSome? Event.connection?

def awaited (events : List Event) : Bool := events.foldl Event.awaits false

/-- Every failure that a run brings, in order, the first one and those that come too late. -/
def failures (a : Attempt) (awaited : Bool) : List Event → List Error
  | [] => []
  | e :: rest => (e.failure? a awaited).toList ++ failures (next a e).1 (e.awaits awaited) rest

theorem awaited_concat (events : List Event) (e : Event) :
    awaited (events ++ [e]) = e.awaits (awaited events) := by
  simp [awaited]

theorem failures_concat (a : Attempt) (w : Bool) (events : List Event) (e : Event) :
    failures a w (events ++ [e]) =
      failures a w events ++ (e.failure? (run a events) (events.foldl Event.awaits w)).toList := by
  induction events generalizing a w with
  | nil => simp [failures, run]
  | cons first rest ih =>
    rw [List.cons_append, failures, ih, failures, List.append_assoc]
    rfl

@[simp] theorem closes_append (first rest : List Effect) :
    closes (first ++ rest) = closes first ++ closes rest := List.filterMap_append ..

@[simp] theorem closes_setup (callbacks : List SetupReaction) (outcome : Outcome)
    (response : Response) : closes (callbacks.map (.setup · outcome response)) = [] := by
  simp [closes, Effect.closed?]

@[simp] theorem closes_shutdown (sockets : List SocketId) (error : Option Error) :
    closes (sockets.map (.shutdown · error)) = [] := by
  simp [closes, Effect.closed?]

@[simp] theorem closes_asked (a : Attempt) (status : Option Status) (error : Option Error)
    (channel : Option ChannelId) : closes (asked a status error channel) = [] := by
  rw [closes, List.filterMap_eq_nil_iff]
  intro e he
  obtain ⟨options, rfl⟩ := mem_asked a status error channel he
  rfl

/-- What a call does to an attempt that awaits a response or not: it brings a failure, which is
recorded as the connection is closed, or it closes nothing. -/
inductive Takes (a : Attempt) (awaiting : Bool) (e : Event) : Attempt → List Effect → Prop
  | failing {error b told} (brings : e.failure? a awaiting = some error)
      (recorded : b.failure = some error) (phase : b.phase = .cancelling)
      (closed : closes told = b.connection.toList) : Takes a awaiting e b told
  | going {b told} (brings : e.failure? a awaiting = none)
      (phase : b.phase = .awaitingResponse ↔ e.awaits awaiting = true)
      (closed : closes told = []) : Takes a awaiting e b told

theorem takes_cancel {a b : Attempt} {awaiting : Bool} {e : Event} {error : Error}
    (told : List Effect) (quiet : closes told = []) (unfailed : b.failure = none)
    (brings : e.failure? a awaiting = some error) :
    Takes a awaiting e (cancel b error).1 (told ++ (cancel b error).2) := by
  rw [cancel_of_unfailed unfailed]
  refine .failing brings rfl rfl ?_
  rw [closes_append, quiet, List.nil_append]
  cases connection : b.connection <;> simp [closes, Effect.closed?]

section Step

variable {a : Attempt}

theorem takes_connected (h : Coherent .dialling a) (c : ConnectionId) (reply : RequestReply) :
    Takes a (decide (a.phase = .awaitingResponse)) (.connected c reply)
      (onConnected a c reply).1 (onConnected a c reply).2 := by
  have phase : a.phase = .awaitingConnection := by simpa [Life.phases] using h.phase_mem
  have slots := h.slots
  rw [phase] at slots
  obtain ⟨-, -, -, -, unfailed, -⟩ := slots
  cases reply with
  | accepted stream =>
    apply Takes.going
    · rfl
    · simp [onConnected, Event.awaits]
    · rfl
  | refused error =>
    exact takes_cancel (b := { a with connection := some c }) [requestEffect _ c] rfl unfailed rfl

theorem takes_headers {life : Life} (h : Coherent life a) (stream : StreamId)
    (status : Option Status) (batch : List Header) :
    Takes a (decide (a.phase = .awaitingResponse)) (.headers stream status batch)
      (onHeaders a status batch).1 (onHeaders a status batch).2 := by
  unfold onHeaders
  split
  · rename_i unawaited
    apply Takes.going
    · simp [Event.failure?, unawaited]
    · simp [Event.awaits, unawaited]
    · rfl
  rename_i awaiting
  rw [Decidable.not_not] at awaiting
  have slots := h.slots
  rw [awaiting] at slots
  obtain ⟨-, -, -, -, unfailed⟩ := slots
  dsimp only
  split
  · rename_i copied
    apply Takes.going
    · simp [Event.failure?, awaiting, copied]
    · simp [Event.awaits, awaiting]
    · rfl
  · rename_i error uncopied
    apply takes_cancel [] rfl
    · exact unfailed
    · simp [Event.failure?, awaiting, uncopied]

theorem takes_completed {life : Life} (h : Coherent life a) (stream : StreamId)
    (status : Option Status) (error : Option Error) (channel : Option ChannelId)
    (reply : HandlerReply) :
    Takes a (decide (a.phase = .awaitingResponse)) (.completed stream status error channel reply)
      (onCompleted a status error channel reply).1
      (onCompleted a status error channel reply).2 := by
  by_cases awaiting : a.phase = .awaitingResponse
  · have slots := h.slots
    rw [awaiting] at slots
    obtain ⟨-, -, -, -, unfailed⟩ := slots
    rw [onCompleted_awaiting awaiting]
    cases judgement : verdict status error channel reply with
    | error cause =>
      apply takes_cancel
      · exact closes_asked ..
      · simpa using unfailed
      · simp [Event.failure?, awaiting, judgement]
    | ok socket =>
      apply Takes.going
      · simp [Event.failure?, awaiting, judgement]
      · simp [establish, Event.awaits]
      · simp [establish]
  · rw [onCompleted_ignored awaiting]
    apply Takes.going
    · simp [Event.failure?, awaiting]
    · simp [Event.awaits, awaiting]
    · rfl

theorem takes_shutDown (a : Attempt) (error : Option Error) :
    Takes a (decide (a.phase = .awaitingResponse)) (.shutDown error)
      (onShutDown a error).1 (onShutDown a error).2 := by
  unfold onShutDown
  dsimp only
  split
  · apply Takes.going
    · rfl
    · simp [Event.awaits]
    · rfl
  · apply Takes.going
    · rfl
    · simp [Event.awaits]
    · exact closes_shutdown ..

theorem takes_next {life later : Life} {e : Event} (h : Coherent life a)
    (allowed : life.next? e = some later) :
    Takes a (decide (a.phase = .awaitingResponse)) e (next a e).1 (next a e).2 := by
  cases e with
  | connected c reply =>
    cases life <;> cases allowed
    exact takes_connected h c reply
  | connectFailed error =>
    apply Takes.going
    · rfl
    · simp [next, onConnectFailed, Event.awaits]
    · exact closes_setup ..
  | headers stream status batch => exact takes_headers h stream status batch
  | completed stream status error channel reply =>
    exact takes_completed h stream status error channel reply
  | shutDown error => exact takes_shutDown a error

/-- A live attempt holds the connection that was delivered. -/
theorem next_connection {life : Life} {e : Event} (allowed : life.next? e = some .live) :
    (next a e).1.connection = e.connection?.or a.connection := by
  cases e with
  | connected c reply =>
    cases reply with
    | accepted stream => rfl
    | refused error => simp [next, onConnected, Event.connection?]
  | connectFailed error => cases life <;> cases allowed
  | headers stream status batch =>
    simp only [next, onHeaders, Event.connection?, Option.none_or]
    split
    · rfl
    · split
      · rfl
      · simp
  | completed stream status error channel reply =>
    simp only [next, Event.connection?, Option.none_or]
    by_cases awaiting : a.phase = .awaitingResponse
    · rw [onCompleted_awaiting awaiting]
      cases verdict status error channel reply with
      | error cause => simp
      | ok socket => simp [establish]
    · rw [onCompleted_ignored awaiting]
  | shutDown error => cases life <;> cases allowed

end Step

structure Ledger (a : Attempt) (events : List Event) (life : Life) : Prop where
  coherent : Coherent life (run a events)
  awaiting : (run a events).phase = .awaitingResponse ↔
    awaited events = true ∧ failures a false events = []
  undelivered : life = .dialling → delivered? events = none ∧ failures a false events = []
  delivered : life = .live → (run a events).connection = delivered? events
  closed : closes (effects a events) =
    if failures a false events = [] then [] else (delivered? events).toList

theorem Fresh.ledger {o : Options} {a : Attempt} (fresh : Fresh o a) : Ledger a [] .dialling := by
  refine ⟨fresh.coherent, ?_, fun _ => ⟨rfl, rfl⟩, ?_, rfl⟩
  · simp [run, awaited, fresh.phase]
  · intro live
    cases live

namespace Ledger

variable {a : Attempt} {events : List Event} {life later : Life} {e : Event}

theorem delivered?_concat (events : List Event) (e : Event) :
    delivered? (events ++ [e]) = (delivered? events).or e.connection? := by
  simp [delivered?, List.findSome?_append]

theorem delivered_next (h : Ledger a events life) (allowed : life.next? e = some .live) :
    (run a (events ++ [e])).connection = delivered? (events ++ [e]) := by
  rw [run_concat, next_connection allowed, delivered?_concat]
  cases e with
  | connected c reply =>
    cases life <;> cases allowed
    rw [(h.undelivered rfl).1]
    rfl
  | connectFailed error => cases life <;> cases allowed
  | headers | completed =>
    obtain rfl : life = .live := by cases life <;> cases allowed; rfl
    simp [h.delivered rfl, Event.connection?]
  | shutDown error => cases life <;> cases allowed

/-- Until a failure has been brought, the calls and the phase say the same about the response. -/
theorem awaited_eq (h : Ledger a events life) (unfailed : failures a false events = []) :
    decide ((run a events).phase = .awaitingResponse) = awaited events := by
  rw [Bool.eq_iff_iff, decide_eq_true_iff, h.awaiting]
  simp [unfailed]

theorem unawaited (h : Ledger a events life) (failed : failures a false events ≠ []) :
    (run a events).phase ≠ .awaitingResponse := by
  intro awaiting
  exact failed (h.awaiting.mp awaiting).2

theorem unconnected (h : Ledger a events life) (allowed : life.next? e = some later)
    (failed : failures a false events ≠ []) : e.connection? = none := by
  cases e with
  | connected c reply =>
    cases life <;> cases allowed
    exact absurd (h.undelivered rfl).2 failed
  | _ => rfl

/-- After the first failure a call closes nothing, and no response is awaited any more. -/
theorem next_of_failed (h : Ledger a events life) (allowed : life.next? e = some later)
    (failed : failures a false events ≠ []) :
    closes (next (run a events) e).2 = [] ∧
      (next (run a events) e).1.phase ≠ .awaitingResponse := by
  have takes := takes_next h.coherent allowed
  have unconnected := h.unconnected allowed failed
  rw [decide_eq_false (h.unawaited failed)] at takes
  generalize (next (run a events) e).1 = b at takes ⊢
  generalize (next (run a events) e).2 = told at takes ⊢
  cases takes with
  | failing brings =>
    cases e with
    | connected c reply => cases unconnected
    | _ => cases brings
  | going brings phase closed =>
    refine ⟨closed, ?_⟩
    rw [Ne, phase]
    cases e with
    | connected c reply => cases unconnected
    | _ => simp [Event.awaits]

theorem takes (h : Ledger a events life) (allowed : life.next? e = some later)
    (unfailed : failures a false events = []) :
    Takes (run a events) (awaited events) e (run a (events ++ [e])) (next (run a events) e).2 := by
  rw [run_concat, ← h.awaited_eq unfailed]
  exact takes_next h.coherent allowed

/-- While no connection has been delivered, there is none to fail. -/
theorem undelivered_next (h : Ledger a events life) (allowed : life.next? e = some .dialling) :
    delivered? (events ++ [e]) = none ∧ failures a false (events ++ [e]) = [] := by
  obtain rfl : life = .dialling := by cases life <;> cases e <;> cases allowed <;> rfl
  obtain ⟨undelivered, unfailed⟩ := h.undelivered rfl
  have unawaited : awaited events = false := by
    have phase := h.coherent.phase_mem
    rw [← h.awaited_eq unfailed, decide_eq_false_iff_not]
    intro awaiting
    rw [awaiting] at phase
    simp [Life.phases] at phase
  rw [delivered?_concat, failures_concat, undelivered, unfailed, ← awaited, unawaited]
  cases e with
  | headers | completed => exact ⟨rfl, rfl⟩
  | _ => cases allowed

theorem step (h : Ledger a events life) (allowed : life.next? e = some later) :
    Ledger a (events ++ [e]) later := by
  have coherent : Coherent later (run a (events ++ [e])) := by
    rw [run_concat]
    exact (coherent_step h.coherent allowed).1
  have undelivered : later = .dialling → delivered? (events ++ [e]) = none ∧
      failures a false (events ++ [e]) = [] := by
    rintro rfl
    exact h.undelivered_next allowed
  have delivered : later = .live → (run a (events ++ [e])).connection =
      delivered? (events ++ [e]) := by
    rintro rfl
    exact h.delivered_next allowed
  by_cases unfailed : failures a false events = []
  · have takes := h.takes allowed unfailed
    have met : failures a false (events ++ [e]) =
        (e.failure? (run a events) (awaited events)).toList := by
      rw [failures_concat, unfailed]
      rfl
    cases takes with
    | failing brings recorded phase closed =>
      refine ⟨coherent, ?_, undelivered, delivered, ?_⟩
      · simp [phase, met, brings]
      · have live : later = .live := by
          have mem := coherent.phase_mem
          rw [phase] at mem
          cases later <;> simp_all [Life.phases]
        rw [effects_concat, closes_append, h.closed, if_pos unfailed, closed, delivered live]
        simp [met, brings]
    | going brings phase closed =>
      refine ⟨coherent, ?_, undelivered, delivered, ?_⟩
      · simp [phase, met, brings, awaited_concat]
      · rw [effects_concat, closes_append, h.closed, if_pos unfailed, closed]
        simp [met, brings]
  · obtain ⟨quiet, unawaited⟩ := h.next_of_failed allowed unfailed
    have unconnected := h.unconnected allowed unfailed
    refine ⟨coherent, ?_, undelivered, delivered, ?_⟩
    · simp [run_concat, unawaited, failures_concat, unfailed]
    · rw [effects_concat, closes_append, quiet, List.append_nil, h.closed, delivered?_concat,
        unconnected, Option.or_none, failures_concat, if_neg unfailed]
      simp [unfailed]

end Ledger

theorem ledger_run {o : Options} {a : Attempt} (fresh : Fresh o a) {events : List Event}
    {life : Life} (h : Life.dialling.follow? events = some life) : Ledger a events life := by
  induction events using List.reverseRecOn generalizing life with
  | nil =>
    cases h
    exact fresh.ledger
  | append_singleton events e ih =>
    rw [Life.follow?_append] at h
    obtain ⟨before, led, allowed⟩ := Option.bind_eq_some_iff.mp h
    exact (ih led).step (by simpa [Life.follow?] using allowed)

/-- A failed setup is reported when the connection has shut down, or when there never was one. -/
theorem failed_at_end {a : Attempt} {e : Event} {reaction : SetupReaction} {error : Error}
    {response : Response} (told : .setup reaction (.failed error) response ∈ (next a e).2) :
    e.ends = true := by
  rw [← mem_reports_setup] at told
  have t := next_told a e
  generalize (next a e).1 = b at t
  generalize reports (next a e).2 = heard at t told
  cases t with
  | nothing => cases told
  | unconnected => rfl
  | opened => simp at told
  | failed => rfl
  | closed => rfl

theorem delivered?_connectFailed {events : List Event} {error : Error}
    (kept : KeepsContract (events ++ [.connectFailed error])) {a : Attempt} {o : Options}
    (fresh : Fresh o a) : delivered? (events ++ [.connectFailed error]) = none := by
  obtain ⟨life, later, led, allowed, -⟩ := kept.split
  obtain rfl : life = .dialling := by cases life <;> cases allowed; rfl
  rw [Ledger.delivered?_concat, ((ledger_run fresh led).undelivered rfl).1]
  rfl

/-- Once setup has delivered a connection, a failed attempt is reported only when that connection
shuts down. The first failure closes the connection as it is recorded. No other call closes it,
whether it brings another failure or none. -/
theorem closed_once_at_first_failure {m : Allocator} {o : Options} {a : Attempt} {dial : Dial}
    (started : start m o = .ok (a, dial)) {events : List Event} {e : Event} {c : ConnectionId}
    (kept : KeepsContract (events ++ [e])) (delivered : delivered? (events ++ [e]) = some c) :
    (∀ reaction error response,
      .setup reaction (.failed error) response ∈ (next (run a events) e).2 →
      ∃ cause, e = .shutDown cause) ∧
    (∀ error, failures a false events = [] →
      e.failure? (run a events) (awaited events) = some error →
      closes (next (run a events) e).2 = [c] ∧
      (run a (events ++ [e])).failure = some error ∧
      (run a (events ++ [e])).phase = .cancelling) ∧
    (failures a false events ≠ [] ∨ e.failure? (run a events) (awaited events) = none →
      closes (next (run a events) e).2 = []) ∧
    closes (effects a (events ++ [e])) =
      if failures a false (events ++ [e]) = [] then [] else [c] := by
  have fresh := start_fresh started
  obtain ⟨life, later, led, allowed, -⟩ := kept.split
  have before := ledger_run fresh led
  have after := before.step allowed
  refine ⟨?_, ?_, ?_, ?_⟩
  · intro reaction error response told
    have ends := failed_at_end told
    cases e with
    | shutDown cause => exact ⟨cause, rfl⟩
    | connectFailed cause =>
      rw [delivered?_connectFailed kept fresh] at delivered
      cases delivered
    | _ => cases ends
  · intro error unfailed brings
    have takes := before.takes allowed unfailed
    cases takes with
    | going unbroken =>
      rw [unbroken] at brings
      cases brings
    | failing broken recorded phase closed =>
      obtain rfl := Option.some.inj (broken.symm.trans brings)
      have closed_c := after.closed
      rw [effects_concat, closes_append, before.closed, if_pos unfailed, failures_concat, unfailed,
        ← awaited, brings, delivered] at closed_c
      exact ⟨closed_c, recorded, phase⟩
  · intro nothing
    by_cases unfailed : failures a false events = []
    · have sound := nothing.resolve_left (fun failed => failed unfailed)
      cases before.takes allowed unfailed with
      | failing broken =>
        rw [sound] at broken
        cases broken
      | going _ _ closed => exact closed
    · exact (before.next_of_failed allowed unfailed).1
  · rw [after.closed, delivered]
    rfl

/-- The upgrade is refused, and the stream calls once more before the connection shuts down. -/
def lateRun : List Event :=
  refusedRun ++ [.completed 0 none (some .connectionClosed) none (.installed 0)]

theorem refused_upgrade_closes_once :
    ∃ a dial, start (.doubling 4096) plainOptions = .ok (a, dial) ∧
      KeepsContract (lateRun ++ [.shutDown none]) ∧
      delivered? (lateRun ++ [.shutDown none]) = some 0 ∧
      closes (effects a (lateRun ++ [.shutDown none])) = [0] := by
  refine ⟨_, _, rfl, by decide, by decide, ?_⟩
  have kept : KeepsContract (lateRun ++ [.shutDown none]) := by decide
  obtain ⟨-, -, -, once⟩ := closed_once_at_first_failure (m := .doubling 4096)
    (o := plainOptions) rfl kept (c := 0) (by decide)
  exact once.trans (if_neg (by decide))

end WebSocketClient.Handshake
