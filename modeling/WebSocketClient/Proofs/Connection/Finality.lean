import WebSocketClient.Connection.Task
import WebSocketClient.Proofs.Connection.ClosedTask

/-! # A close is final

The first call that closes a connection sends the only command to close, with its error. From then
on, or from the end of the task, everything that is asked of the connection is refused and leaves no
trace. -/
namespace WebSocketClient.Connection

def connected : State := (next initial .dialled).1

def Event.close? : Event → Option (Option Error)
  | close error => some error
  | _ => none

def Command.close? : Command → Option (Option Error)
  | close error => some error
  | request _ => none

def closings (events : List Event) : List (Option Error) := events.filterMap Event.close?

def posted (s : State) (e : Event) : List Command :=
  (next s e).1.commands.drop s.commands.length

def closesSent (s : State) : List Event → List (Option Error)
  | [] => []
  | e :: rest => (posted s e).filterMap Command.close? ++ closesSent (next s e).1 rest

/-- Everything that is asked of a connection is refused and changes nothing. -/
structure Refusing (s : State) : Prop where
  shut : s.isOpen = false
  closes : ∀ error, next s (.close error) = (s, [])
  requests : ∀ stream fault, next s (.request stream fault) = (s, [.refused stream .notConnected])
  handlers : ∀ handler, next s (.install handler) = (s, [.notInstalled handler .shuttingDown])

section Tasks

variable {s t : State} {told : List Effect}

theorem refusing_of_shut (shut : s.isOpen = false) : Refusing s :=
  ⟨shut, fun _ => if_neg (by simp [shut]), fun _ _ => if_pos shut, fun _ => if_pos shut⟩

theorem next_close (isOpen : s.isOpen = true) (receiving : s.receiving = true)
    (error : Option Error) : next s (.close error) =
      ({ s with isOpen := false, commands := s.commands ++ [.close error] }, []) := by
  simp only [next, onUser, isOpen, receiving, if_true]

inductive Yields (s t : State) (told : List Effect) : Prop
  | on (isOpen : t.isOpen = s.isOpen) (channel : t.commands <:+ s.commands)
      (untold : shutdowns told = [])
  | gone (shut : t.isOpen = false) (channel : t.commands = []) (report : shutdowns told ≠ [])

theorem Takes.channel (takes : Takes s t) : t.isOpen = s.isOpen ∧ t.commands <:+ s.commands := by
  cases takes with
  | nothing same => exact same ▸ ⟨rfl, List.suffix_rfl⟩
  | command command rest channel left isOpen =>
    rw [left, channel]
    exact ⟨isOpen, List.suffix_cons ..⟩

theorem task_yields (tidy : Tidy s) {e : Event} (inside : e.isOutside = false) :
    Yields s (next s e).1 (next s e).2 := by
  obtain ⟨r, takes, settles⟩ := task_settles tidy inside
  obtain ⟨sameOpen, suffix⟩ := takes.channel
  cases settles with
  | gone error report _ _ silent =>
    exact .gone silent.isOpen silent.commands (by simp [report, shutdowns, Effect.shutdown?])
  | on _ _ running _ commands isOpen =>
    exact .on (isOpen.trans sameOpen) (commands ▸ suffix) (shutdowns_of_any running)

/-- The task only takes from the channel. -/
theorem Yields.posted {e : Event} (h : Yields s (next s e).1 (next s e).2) : posted s e = [] := by
  rw [Connection.posted]
  cases h with
  | on _ channel => exact List.drop_eq_nil_of_le channel.length_le
  | gone _ channel => rw [channel, List.drop_nil]

/-- What a request or a handler adds to the channel is a request at most. -/
structure Asks (s : State) (e : Event) : Prop where
  isOpen : (next s e).1.isOpen = s.isOpen
  channel : ∃ streams : List StreamId,
    (next s e).1.commands = s.commands ++ streams.map Command.request
  untold : shutdowns (next s e).2 = []

theorem Asks.unchanged {e : Event} (same : next s e = (s, told)) (untold : shutdowns told = []) :
    Asks s e := by
  refine ⟨?_, ⟨[], ?_⟩, ?_⟩
  · rw [same]
  · rw [same, List.map_nil, List.append_nil]
  · rw [same, untold]

theorem request_asks (s : State) (stream : StreamId) (fault : Option Error) :
    Asks s (.request stream fault) := by
  by_cases shut : s.isOpen = false
  · exact .unchanged (if_pos shut) rfl
  · cases fault with
    | some error => exact .unchanged (if_neg shut) rfl
    | none =>
      by_cases receiving : s.receiving = true
      · have accepts : next s (.request stream none) =
            ({ s with commands := s.commands ++ [.request stream] }, [.accepted stream]) := by
          simp only [next, onUser, if_neg shut, if_pos receiving]
        refine ⟨?_, ⟨[stream], ?_⟩, ?_⟩ <;> rw [accepts] <;> rfl
      · have refuses : next s (.request stream none) = (s, [.refused stream .notConnected]) := by
          simp only [next, onUser, if_neg shut, if_neg receiving]
        exact .unchanged refuses rfl

theorem install_asks (s : State) (handler : HandlerId) : Asks s (.install handler) := by
  by_cases shut : s.isOpen = false
  · exact .unchanged (if_pos shut) rfl
  · by_cases taken : s.slot.isSome = true
    · have refuses : next s (.install handler) =
          (s, [.notInstalled handler .alreadyInstalled]) := by
        simp only [next, onUser, if_neg shut, if_pos taken]
      exact .unchanged refuses rfl
    · have installs : next s (.install handler) =
          ({ s with slot := some handler }, [.installed handler]) := by
        simp only [next, onUser, if_neg shut, if_neg taken]
      refine ⟨?_, ⟨[], ?_⟩, ?_⟩ <;> rw [installs]
      · exact (List.append_nil _).symm
      · rfl

/-- No command to close is sent. -/
theorem Asks.posted {e : Event} (h : Asks s e) : (posted s e).filterMap Command.close? = [] := by
  obtain ⟨streams, channel⟩ := h.channel
  rw [Connection.posted, channel, List.drop_left, List.filterMap_map]
  exact List.filterMap_eq_nil_iff.mpr fun _ _ => rfl

theorem Move.connected {taken : List StreamId} (move : Move s taken told t)
    (h : s.control ≠ .dialling) : t.control ≠ .dialling := by
  have drains (s : State) (error : Option Error) (streams : List StreamId) :
      (drain s error streams).1.control ≠ .dialling := by
    cases streams <;> nofun
  cases move with
  | refuses | accepts | closes | installs | receives | driverEnds | starts => exact h
  | leaves | drains => exact drains _ _ _
  | _ => nofun

/-- An event is a call to close, another call, or a step of the task. -/
theorem next_cases (tidy : Tidy s) (dialled : s.control ≠ .dialling) (e : Event) :
    (∃ error, e = .close error) ∨
      e.close? = none ∧ (Asks s e ∨ Yields s (next s e).1 (next s e).2) := by
  cases e with
  | close error => exact .inl ⟨error, rfl⟩
  | request stream fault => exact .inr ⟨rfl, .inl (request_asks s stream fault)⟩
  | install handler => exact .inr ⟨rfl, .inl (install_asks s handler)⟩
  | dialled => exact .inr ⟨rfl, .inl (.unchanged (if_neg dialled) rfl)⟩
  | _ => exact .inr ⟨rfl, .inr (task_yields tidy rfl)⟩

/-- A connection that is closed stays closed, and no command is sent to it. -/
theorem next_shut (tidy : Tidy s) (dialled : s.control ≠ .dialling) (shut : s.isOpen = false)
    (e : Event) :
    (next s e).1.isOpen = false ∧ (posted s e).filterMap Command.close? = [] := by
  rcases next_cases tidy dialled e with ⟨error, rfl⟩ | ⟨-, asks | yields⟩
  · rw [posted, (refusing_of_shut shut).closes error, List.drop_length]
    exact ⟨shut, rfl⟩
  · exact ⟨asks.isOpen.trans shut, asks.posted⟩
  · rw [yields.posted]
    refine ⟨?_, rfl⟩
    cases yields with
    | on isOpen => exact isOpen.trans shut
    | gone shut => exact shut

end Tasks

/-- What has come of the calls to close. `called` are their errors, and `sent` those of the
commands. -/
inductive Closure (s : State) (called sent : List (Option Error)) (told : List Effect) : Prop
  | live (isOpen : s.isOpen = true) (uncalled : called = []) (unsent : sent = [])
      (untold : shutdowns told = []) (channel : ∀ error, .close error ∉ s.commands)
  | closed (shut : s.isOpen = false) (error : Option Error) (first : called.head? = some error)
      (one : sent = [error]) (channel : ∀ cause, .close cause ∈ s.commands → cause = error)
  | ended (shut : s.isOpen = false) (unsent : sent = []) (report : shutdowns told ≠ [])
      (channel : ∀ error, .close error ∉ s.commands)

namespace Closure

variable {s : State} {called sent : List (Option Error)} {told : List Effect}

theorem refusing (h : Closure s called sent told) (done : called ≠ [] ∨ shutdowns told ≠ []) :
    Refusing s := by
  cases h with
  | live isOpen uncalled _ untold =>
    rcases done with called | report
    · exact absurd uncalled called
    · exact absurd untold report
  | closed shut => exact refusing_of_shut shut
  | ended shut => exact refusing_of_shut shut

/-- The channel gets shorter, or longer by requests, and nothing else happens. -/
theorem keeps (h : Closure s called sent told) {t : State} {more : List Effect}
    (isOpen : t.isOpen = s.isOpen)
    (channel : ∀ error, .close error ∈ t.commands → .close error ∈ s.commands)
    (untold : shutdowns more = []) : Closure t called sent (told ++ more) := by
  have same : shutdowns (told ++ more) = shutdowns told := by
    rw [shutdowns_append, untold, List.append_nil]
  cases h with
  | live wasOpen uncalled unsent before unclosed =>
    exact .live (isOpen.trans wasOpen) uncalled unsent (same.trans before)
      fun error mem => unclosed error (channel error mem)
  | closed shut error first one only =>
    exact .closed (isOpen.trans shut) error first one
      fun cause mem => only cause (channel cause mem)
  | ended shut unsent report unclosed =>
    exact .ended (isOpen.trans shut) unsent (same ▸ report)
      fun error mem => unclosed error (channel error mem)

theorem task (h : Closure s called sent told) {t : State} {more : List Effect}
    (yields : Yields s t more) : Closure t called sent (told ++ more) := by
  cases yields with
  | on isOpen channel untold => exact h.keeps isOpen (fun _ mem => channel.subset mem) untold
  | gone shut channel report =>
    have reported : shutdowns (told ++ more) ≠ [] := by simp [shutdowns_append, report]
    have empty : ∀ error, Command.close error ∉ t.commands := by simp [channel]
    cases h with
    | live _ _ unsent => exact .ended shut unsent reported empty
    | closed _ error first one =>
      exact .closed shut error first one fun cause mem => absurd mem (empty cause)
    | ended _ unsent => exact .ended shut unsent reported empty

/-- A call to close a connection that is closed is not heeded. -/
theorem close_again (h : Closure s called sent told) (shut : s.isOpen = false)
    (error : Option Error) : Closure s (called ++ [error]) sent told := by
  cases h with
  | live isOpen => simp [shut] at isOpen
  | closed _ first head one only => exact .closed shut first (by simp [head]) one only
  | ended _ unsent report unclosed => exact .ended shut unsent report unclosed

/-- The first call sends the command. -/
theorem close (h : Closure s called sent told) (error : Option Error)
    (receiving : s.isOpen = true → s.receiving = true) :
    Closure (next s (.close error)).1 (called ++ [error])
      (sent ++ (posted s (.close error)).filterMap Command.close?)
      (told ++ (next s (.close error)).2) := by
  by_cases shut : s.isOpen = false
  · have stays := (refusing_of_shut shut).closes error
    rw [posted, stays, List.drop_length, List.filterMap_nil, List.append_nil, List.append_nil]
    exact h.close_again shut error
  · have isOpen : s.isOpen = true := by simpa using shut
    cases h with
    | live _ uncalled unsent _ unclosed =>
      rw [posted, next_close isOpen (receiving isOpen), List.drop_left, uncalled, unsent]
      refine .closed rfl error rfl rfl fun cause mem => ?_
      rcases List.mem_append.mp mem with before | last
      · exact absurd before (unclosed cause)
      · simpa using last
    | closed shut => simp [isOpen] at shut
    | ended shut => simp [isOpen] at shut

theorem asks {e : Event} (h : Closure s called sent told) (asks : Asks s e) :
    Closure (next s e).1 called sent (told ++ (next s e).2) := by
  obtain ⟨streams, channel⟩ := asks.channel
  refine h.keeps asks.isOpen (fun error mem => ?_) asks.untold
  rw [channel] at mem
  rcases List.mem_append.mp mem with before | request
  · exact before
  · simp at request

theorem step (h : Closure s called sent told) (tidy : Tidy s)
    (receiving : s.isOpen = true → s.receiving = true) (dialled : s.control ≠ .dialling)
    (e : Event) :
    Closure (next s e).1 (called ++ e.close?.toList)
      (sent ++ (posted s e).filterMap Command.close?) (told ++ (next s e).2) := by
  rcases next_cases tidy dialled e with ⟨error, rfl⟩ | ⟨uncalled, asks | yields⟩
  · exact h.close error receiving
  · rw [uncalled, asks.posted, Option.toList_none, List.append_nil, List.append_nil]
    exact h.asks asks
  · rw [uncalled, yields.posted, Option.toList_none, List.filterMap_nil, List.append_nil,
      List.append_nil]
    exact h.task yields

end Closure

section Runs

theorem closings_append (before after : List Event) :
    closings (before ++ after) = closings before ++ closings after := List.filterMap_append

theorem closesSent_append (s : State) (before after : List Event) :
    closesSent s (before ++ after) = closesSent s before ++ closesSent (run s before) after := by
  induction before generalizing s with
  | nil => rfl
  | cons e before ih => simp only [List.cons_append, closesSent, ih, List.append_assoc]; rfl

/-- A connection is dialled once. -/
theorem connected_run (events : List Event) : (run connected events).control ≠ .dialling :=
  run_keeps (fun s _ _ => s.control ≠ .dialling) (by decide) (fun move _ _ h => move.connected h)
    events

theorem tidy_connected (events : List Event) : Tidy (run connected events) :=
  (account (.dialled :: events)).tidy

theorem closure_run (events : List Event) :
    Closure (run connected events) (closings events) (closesSent connected events)
      (effects connected events) := by
  induction events using List.reverseRecOn with
  | nil => exact .live rfl rfl rfl rfl fun _ => List.not_mem_nil
  | append_singleton events e ih =>
    -- What is known of runs from the start holds here: the dial is their first event.
    have receiving := open_receiving_run (.dialled :: events)
    have calls : closings [e] = e.close?.toList := by
      unfold closings
      cases called : e.close? <;> simp [called]
    have step := ih.step (tidy_connected events) receiving (connected_run events) e
    rw [run_concat, effects_concat, closings_append, closesSent_append, calls]
    simpa only [closesSent, List.append_nil] using step

/-- Once a connection is closed, it stays so. -/
theorem shut_for_good {before : List Event} (shut : (run connected before).isOpen = false)
    (after : List Event) :
    (run connected (before ++ after)).isOpen = false ∧
      closesSent (run connected before) after = [] := by
  induction after using List.reverseRecOn with
  | nil => exact ⟨by rwa [List.append_nil], rfl⟩
  | append_singleton after e ih =>
    obtain ⟨stays, unsent⟩ := ih
    have step := next_shut (tidy_connected _) (connected_run (before ++ after)) stays e
    rw [run_append] at step
    rw [← List.append_assoc, run_concat, closesSent_append, unsent, run_append]
    exact ⟨step.1, by simpa only [closesSent, List.append_nil, List.nil_append] using step.2⟩

/-- The first call sends the command to close, unless the task has ended. -/
theorem first_close_sent {before : List Event} (uncalled : closings before = [])
    (error : Option Error) (after : List Event) :
    closesSent connected (before ++ .close error :: after) =
      if shutdowns (effects connected before) = [] then [error] else [] := by
  cases closure_run before with
  | closed _ first head => simp [uncalled] at head
  | live isOpen _ unsent untold =>
    have closes := next_close isOpen (open_receiving_run (.dialled :: before) isOpen) error
    have sent : posted (run connected before) (.close error) = [.close error] := by
      rw [posted, closes, List.drop_left]
    -- All that comes later finds the connection closed.
    have shut : (run connected (before ++ [.close error])).isOpen = false := by
      rw [run_concat, closes]
    have none := (shut_for_good shut after).2
    rw [run_concat] at none
    rw [if_pos untold, closesSent_append, unsent, closesSent, sent, none]
    rfl
  | ended shut unsent report =>
    have none := (shut_for_good shut (.close error :: after)).2
    rw [if_neg report, closesSent_append, unsent, none, List.nil_append]

/-- A task that is leaving its loop with an error tells no other. -/
theorem Leaving.run {s : State} {error : Option Error} {told : List Effect}
    (h : Leaving error s told) (events : List Event) :
    Leaving error (run s events) (told ++ effects s events) := by
  induction events generalizing s told with
  | nil => rwa [effects, List.append_nil]
  | cons e events ih =>
    rw [effects, ← List.append_assoc]
    exact ih (h.next e).1

theorem Leaving.only {s : State} {error : Option Error} {told : List Effect}
    (h : Leaving error s told) :
    shutdowns told <+: [error] ∧ (Gone s → shutdowns told = [error]) := by
  cases h with
  | draining rest control _ untold =>
    refine ⟨untold ▸ List.nil_prefix, fun gone => ?_⟩
    rcases gone with there | there <;> simp [control] at there
  | gone _ _ report => exact ⟨report ▸ List.prefix_rfl, fun _ => report⟩

/-- The shutdown is not told before the task leaves its loop. -/
theorem untold_waiting_run {before : List Event}
    (control : (run connected before).control = .waiting) :
    shutdowns (effects connected before) = [] := by
  have same : shutdowns (effects initial (.dialled :: before)) =
      shutdowns (effects connected before) := rfl
  cases account (.dialled :: before) with
  | gone gone =>
    have gone : Gone (run connected before) := gone
    rcases gone with there | there <;> simp [control] at there
  | on _ running => exact same ▸ shutdowns_of_any running

/-- The command to close is received, and its error is that of the shutdown. -/
theorem close_received {before : List Event} (control : (run connected before).control = .waiting)
    {cause : Option Error} (first : (run connected before).commands.head? = some (.close cause)) :
    closesSent connected before = [cause] ∧ (closings before).head? = some cause ∧
      ∀ after, Leaving cause (run connected (before ++ .receive :: after))
        (effects connected (before ++ .receive :: after)) := by
  obtain ⟨rest, channel⟩ := List.head?_eq_some_iff.mp first
  have mem : .close cause ∈ (run connected before).commands := by simp [channel]
  cases closure_run before with
  | live _ _ _ _ unclosed => exact absurd mem (unclosed cause)
  | ended _ _ _ unclosed => exact absurd mem (unclosed cause)
  | closed shut error head one only =>
    obtain rfl := only cause mem
    refine ⟨one, head, fun after => ?_⟩
    have leaves : next (run connected before) .receive =
        leave { run connected before with commands := rest } cause := by
      simp only [next, if_pos control, onReceive, channel]
    -- The error is kept while the streams without an answer are completed.
    have leaving : Leaving cause (next (run connected before) .receive).1
        (effects connected before ++ (next (run connected before) .receive).2) := by
      rw [leaves]
      exact (@drain_leaving { run connected before with commands := rest, job := none, queue := [] }
        _ shut cause _ (untold_waiting_run control)).1
    rw [run_append, effects_append, effects, ← List.append_assoc]
    exact leaving.run after

/-- A stream is called only if its request was accepted. -/
theorem called_accepted {events : List Event} {stream : StreamId} {c : Stream.Callback}
    (called : .callback stream c ∈ effects connected events) :
    stream ∈ accepted (effects connected events) := by
  obtain ⟨parts, heard, order, -⟩ := (tale_run (.dialled :: events)).1.parts
  have mem : (stream, c) ∈ callbacks (effects initial (.dialled :: events)) :=
    List.mem_filterMap.mpr ⟨_, List.mem_append_right _ called, rfl⟩
  rw [heard] at mem
  obtain ⟨p, part, own⟩ := List.mem_flatMap.mp mem
  obtain ⟨_, -, same⟩ := List.mem_map.mp own
  obtain rfl : p.stream = stream := congrArg Prod.fst same
  have got := order.subset (List.mem_map_of_mem part)
  exact (received_accepted (.dialled :: events)).subset (List.mem_append_left _ got)

end Runs

def Request.Unbuildable (builds : Method → List Char → List Header → Bool) (r : Request) : Prop :=
  ∀ path, Url.decodeUtf8? r.path = some path → builds r.method path r.headers = false

theorem Request.Unbuildable.fault {builds : Method → List Char → List Header → Bool} {r : Request}
    (h : r.Unbuildable builds) :
    r.fault builds = some .pathNotText ∨ r.fault builds = some .invalidRequest := by
  unfold Request.fault
  cases text : Url.decodeUtf8? r.path with
  | none => exact .inl rfl
  | some path =>
    simp only [h path text]
    exact .inr rfl

/-- What closing comes to on a connection after `events`: one command with the error of the first
call, nothing accepted afterwards, and no callback for a request that was refused. -/
structure Finality (builds : Method → List Char → List Header → Bool) (events : List Event) :
    Prop where
  unasked : closings events = [] → closesSent connected events = []
  once : closings events = [] → ∀ error after,
    closesSent connected (events ++ .close error :: after) =
      if shutdowns (effects connected events) = [] then [error] else []
  ending : (run connected events).control = .waiting →
    ∀ cause, (run connected events).commands.head? = some (.close cause) →
      closesSent connected events = [cause] ∧ (closings events).head? = some cause ∧
      ∀ after, shutdowns (effects connected (events ++ .receive :: after)) <+: [cause] ∧
        (Gone (run connected (events ++ .receive :: after)) →
          shutdowns (effects connected (events ++ .receive :: after)) = [cause])
  final : closings events ≠ [] ∨ shutdowns (effects connected events) ≠ [] →
    ∀ after, Refusing (run connected (events ++ after))
  unbuilt : ∀ request : Request, request.Unbuildable builds →
    ∃ error, (error = .pathNotText ∨ error = .invalidRequest) ∧
      ∀ stream, next (run connected events) (.request stream (request.fault builds)) =
        (run connected events,
          [.refused stream (if (run connected events).isOpen then error else .notConnected)])
  silent : ∀ stream, stream ∉ accepted (effects connected events) →
    ∀ c, .callback stream c ∉ effects connected events

/-- A close sends one command, whose error is kept, and cannot be undone. -/
theorem closing_is_final (builds : Method → List Char → List Header → Bool)
    (events : List Event) : Finality builds events := by
  refine ⟨?_, fun uncalled => first_close_sent uncalled, ?_, ?_, ?_, ?_⟩
  · intro uncalled
    cases closure_run events with
    | live _ _ unsent => exact unsent
    | closed _ error first => simp [uncalled] at first
    | ended _ unsent => exact unsent
  · intro control cause first
    obtain ⟨sent, called, leaving⟩ := close_received control first
    exact ⟨sent, called, fun after => (leaving after).only⟩
  · intro done after
    have shut := ((closure_run events).refusing done).shut
    exact refusing_of_shut (shut_for_good shut after).1
  · intro request unbuildable
    obtain ⟨error, fault, kind⟩ : ∃ error, request.fault builds = some error ∧
        (error = .pathNotText ∨ error = .invalidRequest) := by
      rcases unbuildable.fault with fault | fault
      · exact ⟨_, fault, .inl rfl⟩
      · exact ⟨_, fault, .inr rfl⟩
    refine ⟨error, kind, fun stream => ?_⟩
    rw [fault]
    cases isOpen : (run connected events).isOpen with
    | false => exact (refusing_of_shut isOpen).requests stream (some error)
    | true => simp [next, onUser, isOpen]
  · exact fun stream unknown c called => unknown (called_accepted called)

/-- Three calls close a connection, and a request comes between them. -/
theorem first_error_is_kept :
    let events : List Event := [.returned, .close (some .unknown), .close none, .request 0 none,
      .close (some .tls)]
    let whole := events ++ [.receive, .returned]
    closings events = [some .unknown, none, some .tls] ∧
      closesSent connected events = [some .unknown] ∧
      shutdowns (effects connected whole) = [some .unknown] ∧
      Refusing (run connected (whole ++ [.install 0])) ∧
      ∀ c, .callback 0 c ∉ effects connected whole := by
  intro events whole
  obtain ⟨sent, -, told⟩ := (closing_is_final (fun _ _ _ => true) events).ending (by decide)
    (some .unknown) (by decide)
  have after := closing_is_final (fun _ _ _ => true) whole
  exact ⟨by decide, sent, (told [.returned]).2 (.inr (by decide)),
    after.final (.inl (by decide)) [.install 0], after.silent 0 (by decide)⟩

end WebSocketClient.Connection
