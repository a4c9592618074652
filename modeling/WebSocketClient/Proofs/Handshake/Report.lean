import WebSocketClient.Proofs.Handshake.Closing
import WebSocketClient.Proofs.HeaderStore.Copying

/-! # What setup reports

Setup is told of an error, a status and headers. They are gathered over many calls, and what they
come to is said here by the calls alone: the error of the shutdown or the first failure, the last
status that was shown while a response was awaited, and every header that was delivered meanwhile.
-/
namespace WebSocketClient.Handshake

namespace Event

def batch : Event → List Header
  | headers _ _ batch => batch
  | _ => []

/-- The status that a call shows. A completion with an error shows none. -/
def shown? : Event → Option (Option Status)
  | headers _ status _ => some status
  | completed _ status none _ _ => some status
  | _ => none

theorem awaits_of_over {e : Event} (ends : e.awaits true = false) (awaited : Bool) :
    e.awaits awaited = false := by
  cases e with
  | headers => cases ends
  | connected c reply => cases reply <;> exact ends
  | _ => rfl

end Event

/-- After these calls a response is awaited and nothing has failed. -/
def listens (a : Attempt) (events : List Event) : Bool :=
  awaited events && (failures a false events).isEmpty

/-- The calls that come while a response is awaited and nothing has failed, in order. `before` are
the calls that came earlier. -/
def heard (a : Attempt) (before : List Event) : List Event → List Event
  | [] => []
  | e :: rest => (if listens a before then [e] else []) ++ heard a (before ++ [e]) rest

def deliveredHeaders (calls : List Event) : List Header := calls.flatMap Event.batch

def lastStatus (calls : List Event) : Option Status :=
  (calls.filterMap Event.shown?).getLast?.getD none

theorem heard_append (a : Attempt) (before first rest : List Event) :
    heard a before (first ++ rest) = heard a before first ++ heard a (before ++ first) rest := by
  induction first generalizing before with
  | nil => simp [heard]
  | cons e first ih => simp [heard, ih]

theorem heard_concat (a : Attempt) (events : List Event) (e : Event) :
    heard a [] (events ++ [e]) = heard a [] events ++ if listens a events then [e] else [] := by
  simp [heard_append, heard]

theorem deliveredHeaders_concat (calls : List Event) (e : Event) :
    deliveredHeaders (calls ++ [e]) = deliveredHeaders calls ++ e.batch := by
  simp [deliveredHeaders]

theorem lastStatus_concat (calls : List Event) (e : Event) :
    lastStatus (calls ++ [e]) = e.shown?.getD (lastStatus calls) := by
  cases shown : e.shown? <;> simp [lastStatus, shown]

theorem Ledger.listens_eq {a : Attempt} {events : List Event} {life : Life}
    (h : Ledger a events life) :
    decide ((run a events).phase = .awaitingResponse) = listens a events := by
  rw [Bool.eq_iff_iff, decide_eq_true_iff, h.awaiting]
  simp [listens]

structure Adds (a : Attempt) (listening : Bool) (e : Event) (b : Attempt) : Prop where
  pending : a.onSetup.isSome
  status : b.status = (if listening then e.shown? else none).getD a.status
  response : b.response = if listening then (a.response.pushAll e.batch).store else a.response
  failure : b.failure = a.failure.or (e.failure? a listening)

section Step

variable {a : Attempt}

theorem adds_connected (c : ConnectionId) (reply : RequestReply) (listening : Bool)
    (pending : a.onSetup.isSome) :
    Adds a listening (.connected c reply) (onConnected a c reply).1 := by
  have nothing : a.response = if listening then (a.response.pushAll []).store else a.response := by
    cases listening <;> rfl
  cases reply with
  | accepted stream =>
    refine ⟨pending, ?_, nothing, ?_⟩
    · simp [onConnected, Event.shown?]
    · simp [onConnected, Event.failure?]
  | refused error =>
    refine ⟨pending, ?_, ?_, ?_⟩
    · simp [onConnected, Event.shown?]
    · rw [onConnected, cancel_response]
      exact nothing
    · simp [onConnected, Event.failure?]

theorem adds_headers (stream : StreamId) (status : Option Status) (batch : List Header)
    (pending : a.onSetup.isSome) :
    Adds a (decide (a.phase = .awaitingResponse)) (.headers stream status batch)
      (onHeaders a status batch).1 := by
  unfold onHeaders
  by_cases awaiting : a.phase = .awaitingResponse
  · rw [if_neg (by simpa using awaiting)]
    dsimp only
    cases copied : (a.response.pushAll batch).answer with
    | ok =>
      refine ⟨pending, ?_, ?_, ?_⟩
      · simp [awaiting, Event.shown?]
      · simp [awaiting, Event.batch]
      · simp [awaiting, Event.failure?, copied]
    | error error =>
      refine ⟨pending, ?_, ?_, ?_⟩
      · simp [awaiting, Event.shown?]
      · simp [awaiting, Event.batch]
      · simp [awaiting, Event.failure?, copied]
  · rw [if_pos awaiting]
    refine ⟨pending, ?_, ?_, ?_⟩
    · simp [awaiting]
    · simp [awaiting]
    · simp [awaiting, Event.failure?]

theorem adds_completed (stream : StreamId) (status : Option Status) (error : Option Error)
    (channel : Option ChannelId) (reply : HandlerReply)
    (pending : (onCompleted a status error channel reply).1.onSetup.isSome) :
    Adds a (decide (a.phase = .awaitingResponse)) (.completed stream status error channel reply)
      (onCompleted a status error channel reply).1 := by
  by_cases awaiting : a.phase = .awaitingResponse
  · rw [onCompleted_awaiting awaiting] at pending ⊢
    cases judgement : verdict status error channel reply with
    | ok socket => simp [judgement, establish] at pending
    | error cause =>
      simp only [judgement, cancel_onSetup, judged_onSetup] at pending
      refine ⟨pending, ?_, ?_, ?_⟩
      · simp only [cancel_status, judged_status, awaiting, decide_true, if_true]
        cases error <;> simp [Event.shown?]
      · simp [awaiting, Event.batch, HeaderStore.pushAll]
      · simp [awaiting, Event.failure?, judgement]
  · rw [onCompleted_ignored awaiting] at pending ⊢
    refine ⟨pending, ?_, ?_, ?_⟩
    · simp [awaiting]
    · simp [awaiting]
    · simp [awaiting, Event.failure?]

/-- The calls after which setup is still to be reported. -/
theorem adds_next {e : Event} (pending : (next a e).1.onSetup.isSome) :
    Adds a (decide (a.phase = .awaitingResponse)) e (next a e).1 := by
  have told := next_told a e
  generalize reports (next a e).2 = heard at told
  cases told with
  | unconnected _ setup => simp [setup] at pending
  | opened _ setup => simp [setup] at pending
  | failed _ _ setup => simp [setup] at pending
  | closed _ _ setup => simp [setup] at pending
  | nothing goesOn setup =>
    rw [setup] at pending
    cases e with
    | connected c reply => exact adds_connected c reply _ pending
    | connectFailed error => cases goesOn
    | headers stream status batch => exact adds_headers stream status batch pending
    | completed stream status error channel reply =>
      apply adds_completed
      rw [← setup] at pending
      exact pending
    | shutDown error => cases goesOn

end Step

/-- The state of an attempt that is still to report its setup, said by the calls so far. -/
structure Minutes (a : Attempt) (events : List Event) : Prop where
  failure : (run a events).failure = (failures a false events).head?
  status : (run a events).status = lastStatus (heard a [] events)
  response : (run a events).response =
    (a.response.pushAll (deliveredHeaders (heard a [] events))).store
  copied : failures a false events = [] →
    (a.response.pushAll (deliveredHeaders (heard a [] events))).answer = .ok ()

theorem Fresh.minutes {o : Options} {a : Attempt} (fresh : Fresh o a) : Minutes a [] := by
  refine ⟨fresh.failure, fresh.status, rfl, ?_⟩
  intro _
  rfl

/-- A batch that brings no failure has been copied. -/
theorem copied_of_unfailed {a : Attempt} {e : Event} (unfailed : e.failure? a true = none) :
    (a.response.pushAll e.batch).answer = .ok () := by
  cases e with
  | headers stream status batch =>
    cases copied : (a.response.pushAll batch).answer with
    | ok => exact copied
    | error error => simp [Event.failure?, copied] at unfailed
  | _ => rfl

theorem Minutes.step {a : Attempt} {events : List Event} {life : Life} {e : Event}
    (h : Minutes a events) (ledger : Ledger a events life)
    (adds : Adds (run a events) (listens a events) e (next (run a events) e).1) :
    Minutes a (events ++ [e]) := by
  have heard_eq := heard_concat a events e
  by_cases listening : listens a events
  · obtain ⟨awaiting, unfailed⟩ : awaited events = true ∧ failures a false events = [] := by
      simpa [listens] using listening
    have ok := h.copied unfailed
    have response := h.response
    rw [if_pos listening] at heard_eq
    refine ⟨?_, ?_, ?_, ?_⟩
    · rw [run_concat, adds.failure, h.failure, failures_concat, unfailed, ← awaited, awaiting,
        listening]
      cases e.failure? (run a events) true <;> rfl
    · rw [run_concat, adds.status, heard_eq, lastStatus_concat, h.status, if_pos listening]
    · rw [run_concat, adds.response, if_pos listening, heard_eq, deliveredHeaders_concat,
        HeaderStore.pushAll_append ok, response]
    · intro unfailed'
      rw [failures_concat, ← awaited, awaiting, unfailed] at unfailed'
      rw [heard_eq, deliveredHeaders_concat, HeaderStore.pushAll_append ok, ← response]
      exact copied_of_unfailed (by simpa using unfailed')
  · rw [if_neg listening, List.append_nil] at heard_eq
    refine ⟨?_, ?_, ?_, ?_⟩
    · rw [run_concat, adds.failure, h.failure, failures_concat, ← awaited]
      by_cases unfailed : failures a false events = []
      · rw [← ledger.listens_eq, ledger.awaited_eq unfailed, unfailed]
        cases e.failure? (run a events) (awaited events) <;> rfl
      · obtain ⟨first, rest, met⟩ := List.exists_cons_of_ne_nil unfailed
        simp [met]
    · rw [run_concat, adds.status, heard_eq, h.status, if_neg listening, Option.getD_none]
    · rw [run_concat, adds.response, if_neg listening, heard_eq, h.response]
    · intro unfailed
      rw [failures_concat, List.append_eq_nil_iff] at unfailed
      rw [heard_eq]
      exact h.copied unfailed.1

theorem minutes_run {o : Options} {a : Attempt} (fresh : Fresh o a) {events : List Event}
    {life : Life} (led : Life.dialling.follow? events = some life)
    (pending : (run a events).onSetup.isSome) : Minutes a events := by
  induction events using List.reverseRecOn generalizing life with
  | nil => exact fresh.minutes
  | append_singleton events e ih =>
    rw [Life.follow?_append] at led
    obtain ⟨before, led, -⟩ := Option.bind_eq_some_iff.mp led
    have ledger := ledger_run fresh led
    rw [run_concat] at pending
    have adds := adds_next pending
    rw [ledger.listens_eq] at adds
    exact (ih led adds.pending).step ledger adds

inductive SetupTold (a : Attempt) (reaction : SetupReaction) : Event → Outcome → Response → Prop
  | unconnected (error : Error) :
      SetupTold a reaction (.connectFailed error) (.failed error) Response.none
  | opened {stream channel socket} (awaiting : a.phase = .awaitingResponse) :
      SetupTold a reaction
        (.completed stream (some .switchingProtocols) none (some channel) (.installed socket))
        (.opened socket) ⟨some .switchingProtocols, a.response.headers⟩
  | failed (error : Option Error) :
      SetupTold a reaction (.shutDown error) (.failed ((error <|> a.failure).getD .unknown))
        (reported a)

theorem setup_told {a : Attempt} {e : Event} {reaction : SetupReaction} {outcome : Outcome}
    {response : Response} (told : .setup reaction outcome response ∈ (next a e).2) :
    a.onSetup = some reaction ∧ SetupTold a reaction e outcome response := by
  have now : .setup reaction outcome response ∈ effects a [e] := by simpa [effects] using told
  have held := setup_is_held now
  refine ⟨held, ?_⟩
  rw [← mem_reports_setup] at told
  cases e with
  | connected c reply =>
    have t := told_connected a c reply
    generalize (onConnected a c reply).1 = b at t
    change _ ∈ reports (onConnected a c reply).2 at told
    generalize reports (onConnected a c reply).2 = heard at t told
    cases t
    cases told
  | connectFailed error =>
    simp only [next, onConnectFailed, held, reports_setup] at told
    obtain ⟨-, rfl, rfl⟩ : reaction = reaction ∧ outcome = .failed error ∧
        response = Response.none := by simpa using told
    exact .unconnected error
  | headers stream status batch =>
    have t := told_headers a stream status batch
    generalize (onHeaders a status batch).1 = b at t
    change _ ∈ reports (onHeaders a status batch).2 at told
    generalize reports (onHeaders a status batch).2 = heard at t told
    cases t
    cases told
  | completed stream status error channel reply =>
    by_cases awaiting : a.phase = .awaitingResponse
    · simp only [next, onCompleted_awaiting awaiting] at told
      cases judgement : verdict status error channel reply with
      | error cause => simp [judgement] at told
      | ok socket =>
        obtain ⟨rfl, rfl, present, rfl⟩ := verdict_eq_ok.mp judgement
        obtain ⟨channel, rfl⟩ := Option.isSome_iff_exists.mp present
        simp only [judgement, establish, reports_append, reports_asked, reports_setup,
          List.nil_append, judged_onSetup, held] at told
        obtain ⟨-, rfl, rfl⟩ : reaction = reaction ∧ outcome = .opened socket ∧
            response = ⟨some .switchingProtocols, a.response.headers⟩ := by
          simpa [reported, judged_status] using told
        exact .opened awaiting
    · simp [next, onCompleted_ignored awaiting, reports] at told
  | shutDown error =>
    simp only [next, onShutDown, held] at told
    have told := mem_reports_setup.mp told
    obtain ⟨-, rfl, rfl⟩ : reaction = reaction ∧
        outcome = .failed ((error <|> a.failure).getD .unknown) ∧ response = reported a := by
      simpa [reported] using told
    exact .failed error

/-- After a failure, the completion or the shutdown of a connection that was delivered, nothing is
listened to any more. -/
theorem heard_of_deaf {a : Attempt} {before later : List Event} {life : Life}
    (connected : life ≠ .dialling) (deaf : listens a before = false)
    (kept : (life.follow? later).isSome) : heard a before later = [] := by
  induction later generalizing before life with
  | nil => rfl
  | cons e rest ih =>
    cases allowed : life.next? e with
    | none => simp [Life.follow?, allowed] at kept
    | some after =>
      have still : listens a (before ++ [e]) = false := by
        rw [← Bool.not_eq_true] at deaf ⊢
        intro listening
        apply deaf
        rw [listens, awaited_concat, failures_concat] at listening
        cases e with
        | connected c reply => cases life <;> first | exact absurd rfl connected | cases allowed
        | headers => simp_all [listens, Event.awaits]
        | _ => simp [Event.awaits] at listening
      have connected' : after ≠ .dialling := by
        rintro rfl
        cases life <;> cases e <;> simp_all [Life.next?]
      rw [heard, deaf, if_neg (by simp), List.nil_append]
      exact ih connected' still (by simpa [Life.follow?, allowed] using kept)

/-- The stored headers are all that were delivered, or those in front of one that could not be
copied. -/
theorem Minutes.headers {a : Attempt} {events : List Event} (h : Minutes a events)
    (empty : a.response.records = []) :
    (run a events).response.headers = deliveredHeaders (heard a [] events) ∨
      ∃ header rest error,
        deliveredHeaders (heard a [] events) =
          (run a events).response.headers ++ header :: rest ∧
        ((a.response.pushAll (run a events).response.headers).store.push header).answer =
          .error error := by
  have sound : a.response.Sound := by simp [HeaderStore.Sound, empty]
  have stored : (run a events).response.headers =
      a.response.kept (deliveredHeaders (heard a [] events)) := by
    rw [h.response, HeaderStore.headers_pushAll sound]
    simp [HeaderStore.headers, empty]
  cases copied : (a.response.pushAll (deliveredHeaders (heard a [] events))).answer with
  | ok => exact .inl (stored.trans (HeaderStore.kept_of_ok copied))
  | error error =>
    obtain ⟨header, rest, split, refused⟩ := HeaderStore.kept_of_error copied
    rw [stored]
    exact .inr ⟨header, rest, error, split, refused⟩

theorem Coherent.connected {a : Attempt} (h : Coherent .live a) : a.connection.isSome := by
  have slots := h.slots
  have mem := h.phase_mem
  simp only [Life.phases, List.mem_cons, List.not_mem_nil, or_false] at mem
  rcases mem with phase | phase | phase
  · rw [phase] at slots
    exact slots.2.1
  · rw [phase] at slots
    exact slots.2.1
  · rw [phase] at slots
    exact slots.2.2.1

theorem Ledger.delivered_isSome {a : Attempt} {events : List Event} (h : Ledger a events .live) :
    (delivered? events).isSome := by
  rw [← h.delivered rfl]
  exact h.coherent.connected

section Report

variable {o : Options} {a : Attempt} {events : List Event} {e : Event} {reaction : SetupReaction}
  {outcome : Outcome} {response : Response}

theorem report_unconnected (fresh : Fresh o a) (kept : KeepsContract (events ++ [e]))
    (told : .setup reaction outcome response ∈ (next (run a events) e).2)
    (undelivered : delivered? (events ++ [e]) = none) :
    ∃ error, e = .connectFailed error ∧ outcome = .failed error ∧ response = ⟨none, []⟩ := by
  obtain ⟨-, report⟩ := setup_told told
  obtain ⟨life, later, led, allowed, -⟩ := kept.split
  have ledger := ledger_run fresh led
  have not_live : life ≠ .live := by
    rintro rfl
    rw [Ledger.delivered?_concat] at undelivered
    have delivered := ledger.delivered_isSome
    simp [(Option.or_eq_none_iff.mp undelivered).1] at delivered
  cases report with
  | unconnected error => exact ⟨error, rfl, rfl, rfl⟩
  | opened awaiting => exact absurd (live_of_awaiting ledger.coherent awaiting) not_live
  | failed cause => cases life <;> first | exact absurd rfl not_live | cases allowed

theorem report_connected (fresh : Fresh o a) (kept : KeepsContract (events ++ [e]))
    (told : .setup reaction outcome response ∈ (next (run a events) e).2) {c : ConnectionId}
    (delivered : delivered? (events ++ [e]) = some c) :
    let calls := heard a [] (events ++ [e])
    response.status = lastStatus calls ∧
    (response.headers = deliveredHeaders calls ∨
      ∃ header rest error, deliveredHeaders calls = response.headers ++ header :: rest ∧
        ((a.response.pushAll response.headers).store.push header).answer = .error error) ∧
    (∀ socket, outcome = .opened socket → response.status = some .switchingProtocols) ∧
    ∀ error, outcome = .failed error → ∃ cause, e = .shutDown cause ∧
      error = (cause <|> (failures a false events).head?).getD .unknown := by
  obtain ⟨held, report⟩ := setup_told told
  obtain ⟨life, later, led, -, -⟩ := kept.split
  have minutes := minutes_run fresh led (by simp [held])
  have headers := minutes.headers fresh.response
  have heard_eq := heard_concat a events e
  cases report with
  | unconnected error =>
    rw [delivered?_connectFailed kept fresh] at delivered
    cases delivered
  | opened awaiting =>
    have listening : listens a events = true := by
      rw [← (ledger_run fresh led).listens_eq, awaiting]
      rfl
    rw [if_pos listening] at heard_eq
    refine ⟨?_, ?_, fun _ _ => rfl, ?_⟩
    · rw [heard_eq, lastStatus_concat]
      rfl
    · rw [heard_eq, deliveredHeaders_concat]
      simpa [Event.batch] using headers
    · intro error failed
      cases failed
  | failed cause =>
    -- The shutdown itself shows no status and delivers nothing.
    have same : deliveredHeaders (heard a [] (events ++ [.shutDown cause])) =
          deliveredHeaders (heard a [] events) ∧
        lastStatus (heard a [] (events ++ [.shutDown cause])) = lastStatus (heard a [] events) := by
      rw [heard_eq]
      cases listens a events
      · simp
      · simp [deliveredHeaders_concat, lastStatus_concat, Event.batch, Event.shown?]
    refine ⟨?_, ?_, ?_, ?_⟩
    · rw [same.2]
      exact minutes.status
    · rw [same.1]
      exact headers
    · intro socket opened
      cases opened
    · intro error failed
      cases failed
      exact ⟨cause, rfl, by rw [minutes.failure]⟩

theorem heard_until_over (fresh : Fresh o a) {first later : List Event} {last : Event}
    (kept : KeepsContract (first ++ last :: later)) (connected : delivered? (first ++ [last]) ≠ none)
    (ends : last.failure? (run a first) (awaited first) ≠ none ∨ last.awaits true = false) :
    heard a [] (first ++ last :: later) = heard a [] (first ++ [last]) := by
  obtain ⟨before, after, led, allowed, kept⟩ := kept.split
  have ledger := (ledger_run fresh led).step allowed
  have deaf : listens a (first ++ [last]) = false := by
    rw [← Bool.not_eq_true]
    intro listening
    obtain ⟨awaiting, unfailed⟩ : last.awaits (awaited first) = true ∧
        last.failure? (run a first) (awaited first) = none := by
      rw [listens, awaited_concat, failures_concat] at listening
      simp only [Bool.and_eq_true, List.isEmpty_iff, List.append_eq_nil_iff,
        Option.toList_eq_nil_iff] at listening
      exact ⟨listening.1, listening.2.2⟩
    rcases ends with failed | ended
    · exact failed unfailed
    · rw [Event.awaits_of_over ended] at awaiting
      cases awaiting
  have not_dialling : after ≠ .dialling := fun dialling =>
    connected (ledger.undelivered dialling).1
  rw [← List.singleton_append, ← List.append_assoc, heard_append, List.nil_append,
    heard_of_deaf not_dialling deaf kept, List.append_nil]

theorem listens_iff (fresh : Fresh o a) {first rest : List Event}
    (kept : KeepsContract (first ++ rest)) :
    (run a first).phase = .awaitingResponse ↔ listens a first = true := by
  obtain ⟨life, led⟩ := kept.left
  rw [← (ledger_run fresh led).listens_eq, decide_eq_true_iff]

end Report

/-- Setup is told the status that was shown last and the headers that were delivered while a
response was awaited, in order and octet for octet. If one of them could not be copied, it is told
those in front of it. Nothing counts that comes after a failure, the completion or the shutdown. A
failure is told with the error of the shutdown if there is one, and else with the first failure. If
there never was a connection, setup is told why, and no response. -/
theorem setup_is_told {m : Allocator} {o : Options} {a : Attempt} {dial : Dial}
    (started : start m o = .ok (a, dial)) {events : List Event} {e : Event}
    (kept : KeepsContract (events ++ [e])) {reaction : SetupReaction} {outcome : Outcome}
    {response : Response} (told : .setup reaction outcome response ∈ (next (run a events) e).2) :
    let calls := heard a [] (events ++ [e])
    (∀ first rest, events = first ++ rest →
      ((run a first).phase = .awaitingResponse ↔ listens a first = true)) ∧
    (delivered? (events ++ [e]) = none →
      ∃ error, e = .connectFailed error ∧ outcome = .failed error ∧ response = ⟨none, []⟩) ∧
    (∀ c, delivered? (events ++ [e]) = some c →
      response.status = lastStatus calls ∧
      (response.headers = deliveredHeaders calls ∨
        ∃ header rest error, deliveredHeaders calls = response.headers ++ header :: rest ∧
          ((a.response.pushAll response.headers).store.push header).answer = .error error) ∧
      (∀ socket, outcome = .opened socket → response.status = some .switchingProtocols) ∧
      ∀ error, outcome = .failed error → ∃ cause, e = .shutDown cause ∧
        error = (cause <|> (failures a false events).head?).getD .unknown) ∧
    ∀ first last later, events ++ [e] = first ++ last :: later →
      delivered? (first ++ [last]) ≠ none →
      last.failure? (run a first) (awaited first) ≠ none ∨ last.awaits true = false →
      calls = heard a [] (first ++ [last]) := by
  have fresh := start_fresh started
  refine ⟨?_, ?_, ?_, ?_⟩
  · intro first rest split
    rw [split, List.append_assoc] at kept
    exact listens_iff fresh kept
  · intro undelivered
    exact report_unconnected fresh kept told undelivered
  · intro c delivered
    exact report_connected fresh kept told delivered
  · intro first last later split connected ends
    rw [split] at kept ⊢
    exact heard_until_over fresh kept connected ends

theorem refused_upgrade_is_told :
    ∃ a dial, start (.doubling 4096) plainOptions = .ok (a, dial) ∧
      KeepsContract (lateRun ++ [.shutDown none]) ∧
      ∃ response : Response,
        .setup ⟨[], none, false⟩ (.failed (.upgradeFailure (some ⟨200, by decide, by decide⟩)))
          response ∈ (next (run a lateRun) (.shutDown none)).2 ∧
        response.status = lastStatus (heard a [] (lateRun ++ [.shutDown none])) ∧
        response.status = some ⟨200, by decide, by decide⟩ ∧
        response.headers = [⟨[104], [97]⟩, ⟨[104], [98]⟩] := by
  have kept : KeepsContract (lateRun ++ [.shutDown none]) := by decide
  refine ⟨_, _, rfl, kept, ⟨some ⟨200, by decide, by decide⟩, [⟨[104], [97]⟩, ⟨[104], [98]⟩]⟩,
    by decide, ?_, rfl, rfl⟩
  obtain ⟨-, -, connected, -⟩ := @setup_is_told (.doubling 4096) plainOptions _ _ rfl lateRun
    (.shutDown none) kept ⟨[], none, false⟩
    (.failed (.upgradeFailure (some ⟨200, by decide, by decide⟩)))
    ⟨some ⟨200, by decide, by decide⟩, [⟨[104], [97]⟩, ⟨[104], [98]⟩]⟩ (by decide)
  exact (connected 0 (by decide)).1

end WebSocketClient.Handshake
