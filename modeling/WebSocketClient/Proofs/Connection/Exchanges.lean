import WebSocketClient.Proofs.Connection.Telling

/-! # Requests are exchanged in order, one at a time

An exchange starts when every earlier one is over, in the order of the requests, and none starts
after an upgrade. A task that waits has an exchange or a handler running, or nothing to exchange.
Before the shutdown is reported every request that was received has been answered. -/
namespace WebSocketClient.Connection

def callTo? (stream : StreamId) (call : StreamId × Stream.Callback) : Option Stream.Callback :=
  if call.1 = stream then some call.2 else none

def heardBy (stream : StreamId) (told : List Effect) : List Stream.Callback :=
  (callbacks told).filterMap (callTo? stream)

/-- The streams have been told everything, one after the other. -/
def Answered (told : List Effect) (streams : List StreamId) : Prop :=
  ∃ parts, callbacks told = spoken parts ∧ parts.map (·.stream) = streams ∧
    ∀ p ∈ parts, Finished p.callbacks

/-- Every exchange starts when all that were started before have been completed. -/
def Apart (told : List Effect) : Prop :=
  ∀ first stream rest, told = first ++ .exchange stream :: rest → completed first = exchanged first

inductive Barred (s : State) : Prop
  | upgraded (done : s.upgraded = true)
  | switched (stream : StreamId) (steps : List Delivery)
      (control : s.control = .delivering stream steps (.exchanged true))
  | gone (control : s.control.isOver = true)

section Callbacks

variable {told : List Stream.Callback}

theorem Orderly.of_finished_part (finished : Finished told) {first : List Stream.Callback}
    (part : first <+: told) : Orderly first := by
  cases finished with
  | whole headers hasBody chunks =>
    rcases List.prefix_concat_iff.mp part with rfl | begun
    · exact .inr (.whole headers hasBody chunks)
    · exact .inl ⟨headers, hasBody, chunks, begun⟩
  | cut begun error =>
    rcases List.prefix_concat_iff.mp part with rfl | early
    · exact .inr (.cut begun error)
    · obtain ⟨headers, hasBody, chunks, begun⟩ := begun
      exact .inl ⟨headers, hasBody, chunks, early.trans begun⟩

theorem Now.orderly {s : State} {stream : StreamId} (now : Now s stream told) : Orderly told := by
  cases now with
  | exchanging stage waiting held heard => exact .inl heard.begun
  | telling steps following control suits =>
    cases following with
    | stage stage =>
      obtain ⟨headers, hasBody, chunks, begun⟩ := Heard.begun suits
      exact .inl ⟨headers, hasBody, chunks, (List.prefix_append ..).trans begun⟩
    | exchanged upgraded => exact .of_finished_part suits (List.prefix_append ..)

/-- The streams are told one after the other, in the order of their requests. -/
theorem Tale.parts {s : State} {requests : List StreamId} {told : List Effect}
    (h : Tale s requests told) :
    ∃ parts, callbacks told = spoken parts ∧ parts.map (·.stream) <+: requests ∧
      (∀ p ∈ parts, Orderly p.callbacks) ∧ ∀ p ∈ parts.dropLast, Finished p.callbacks := by
  have whole {parts : List Part} (finished : ∀ p ∈ parts, Finished p.callbacks) :
      (∀ p ∈ parts, Orderly p.callbacks) ∧ ∀ p ∈ parts.dropLast, Finished p.callbacks :=
    ⟨fun p mem => .inr (finished p mem), fun p mem => finished p (List.dropLast_subset _ mem)⟩
  cases h with
  | early _ _ _ _ _ silent => exact ⟨[], silent, List.nil_prefix, whole fun _ => nofun⟩
  | between parts _ _ heard finished order =>
    exact ⟨parts, heard, order ▸ List.prefix_append .., whole finished⟩
  | amid parts part now unfinished =>
    refine ⟨parts ++ [part], unfinished.heard, unfinished.order ▸ List.prefix_append .., ?_, ?_⟩
    · intro p mem
      rcases List.mem_append.mp mem with before | current
      · exact .inr (unfinished.finished p before)
      · obtain rfl := List.mem_singleton.mp current
        exact now.orderly
    · rw [List.dropLast_concat]
      exact unfinished.finished
  | leaving parts _ _ _ heard finished order =>
    exact ⟨parts, heard, order ▸ List.prefix_append .., whole finished⟩
  | gone parts _ heard finished order =>
    exact ⟨parts, heard, order ▸ List.prefix_rfl, whole finished⟩

/-- What is left to be answered is what the task is still completing. -/
theorem Tale.draining {s : State} {requests : List StreamId} {told : List Effect}
    (h : Tale s requests told) {error : Option Error} {rest : List StreamId}
    (draining : s.control = .draining error rest) :
    ∃ before, requests = before ++ rest ∧ Answered told before := by
  cases h with
  | early control => simp [draining] at control
  | between _ _ waiting => simp [draining] at waiting
  | amid _ _ now =>
    cases now with
    | exchanging _ waiting => simp [draining] at waiting
    | telling _ _ control => simp [draining] at control
  | leaving parts _ _ control heard finished order =>
    rw [draining] at control
    cases control
    exact ⟨parts.map (·.stream), order, parts, heard, rfl, finished⟩
  | gone _ control => simp [draining] at control

/-- In the end nothing is left to be answered. -/
theorem Tale.settled {s : State} {requests : List StreamId} {told : List Effect}
    (h : Tale s requests told) (ended : Gone s) : Answered told requests := by
  unfold Gone at ended
  cases h with
  | early control => rcases control with control | control <;> simp [control] at ended
  | between _ _ waiting => simp [waiting] at ended
  | amid _ _ now =>
    cases now with
    | exchanging _ waiting => simp [waiting] at ended
    | telling _ _ control => simp [control] at ended
  | leaving _ _ _ control => simp [control] at ended
  | gone parts _ heard finished order => exact ⟨parts, heard, order.symm, finished⟩

theorem Tale.started {s : State} {requests : List StreamId} {told : List Effect}
    (h : Tale s requests told) : exchanged told <+: requests := by
  cases h with
  | early _ _ _ _ unstarted => exact unstarted ▸ List.nil_prefix
  | between _ _ _ _ _ order started => exact started ▸ order ▸ List.prefix_append ..
  | amid _ _ _ unfinished => exact unfinished.started ▸ unfinished.order ▸ List.prefix_append ..
  | leaving _ _ _ _ _ _ _ started => exact started
  | gone _ _ _ _ _ started => exact started

theorem heard_own (stream : StreamId) (cs : List Stream.Callback) :
    (cs.map (stream, ·)).filterMap (callTo? stream) = cs := by
  simp [List.filterMap_map, Function.comp_def, callTo?]

theorem heard_other {stream other : StreamId} (different : other ≠ stream)
    (cs : List Stream.Callback) : (cs.map (other, ·)).filterMap (callTo? stream) = [] := by
  simp [List.filterMap_map, Function.comp_def, callTo?, different]

theorem spoken_cons (p : Part) (parts : List Part) :
    spoken (p :: parts) = p.callbacks.map (p.stream, ·) ++ spoken parts := rfl

theorem heard_absent {parts : List Part} {stream : StreamId}
    (absent : stream ∉ parts.map (·.stream)) :
    (spoken parts).filterMap (callTo? stream) = [] := by
  induction parts with
  | nil => rfl
  | cons p parts ih =>
    rw [List.map_cons, List.mem_cons, not_or] at absent
    obtain ⟨different, absent⟩ := absent
    rw [spoken_cons, List.filterMap_append, ih absent, heard_other (Ne.symm different)]
    rfl

/-- A stream hears its part. -/
theorem heard_part {parts : List Part} (distinct : (parts.map (·.stream)).Nodup) {p : Part}
    (part : p ∈ parts) : (spoken parts).filterMap (callTo? p.stream) = p.callbacks := by
  induction parts with
  | nil => cases part
  | cons q parts ih =>
    obtain ⟨fresh, distinct⟩ := List.nodup_cons.mp distinct
    rw [spoken_cons, List.filterMap_append]
    rcases List.mem_cons.mp part with rfl | later
    · rw [heard_own, heard_absent fresh, List.append_nil]
    · have different : q.stream ≠ p.stream := by
        intro same
        exact fresh (List.mem_map.mpr ⟨p, later, same.symm⟩)
      rw [heard_other different, List.nil_append, ih distinct later]

/-- A stream that has been answered has heard all of its course, or a part of it and an error. -/
theorem Answered.finished {told : List Effect} {streams : List StreamId}
    (h : Answered told streams) (distinct : streams.Nodup) {stream : StreamId}
    (mem : stream ∈ streams) : Finished (heardBy stream told) := by
  obtain ⟨parts, heard, rfl, finished⟩ := h
  obtain ⟨p, part, rfl⟩ := List.mem_map.mp mem
  rw [heardBy, heard, heard_part distinct part]
  exact finished p part

end Callbacks

section Starts

variable {s t : State} {taken : List StreamId} {told more : List Effect}

theorem drain_starts_nothing (s : State) (error : Option Error) (streams : List StreamId) :
    exchanged (drain s error streams).2 = [] := by
  cases streams <;> rfl

/-- Only the top of the loop starts an exchange. -/
theorem Move.exchanged_cases (move : Move s taken more t) :
    exchanged more = [] ∨
    ∃ stream, more = [.exchange stream] ∧ s.control = .waiting ∧ s.job = none ∧
      s.upgraded = false := by
  cases move with
  | refuses refusals => exact .inl (refusals_silent refusals).1
  | starts stream rest waiting free fresh => exact .inr ⟨stream, rfl, waiting, free, fresh⟩
  | leaves | drains => exact .inl (drain_starts_nothing _ _ _)
  | _ => exact .inl rfl

theorem Apart.append (h : Apart told)
    (new : ∀ first stream rest, more = first ++ .exchange stream :: rest →
      completed (told ++ first) = exchanged (told ++ first)) : Apart (told ++ more) := by
  intro first stream rest split
  rcases List.append_eq_append_iff.mp split with ⟨middle, rfl, here⟩ | ⟨middle, here, after⟩
  · exact new middle stream rest here
  · cases middle with
    | nil =>
      rw [List.append_nil] at here
      subst here
      simpa using new [] stream rest after.symm
    | cons effect middle =>
      obtain ⟨rfl, -⟩ := List.cons.inj after
      exact h first stream middle here

theorem Apart.move {requests : List StreamId} (h : Apart told) (tale : Tale s requests told)
    (move : Move s taken more t) : Apart (told ++ more) := by
  refine h.append fun first stream rest split => ?_
  rcases move.exchanged_cases with nothing | ⟨started, here, waiting, free, -⟩
  · rw [split, exchanged_append] at nothing
    simp [exchanged, Effect.exchange?] at nothing
  · obtain ⟨parts, heard, finished, -, begun⟩ := tale.of_idle waiting (by simp [free])
    have alone : first = [] := by
      cases first with
      | nil => rfl
      | cons effect first => simp [split] at here
    rw [alone, List.append_nil, begun]
    exact completed_spoken finished heard

theorem Barred.move (h : Barred s) (move : Move s taken more t) : Barred t := by
  cases h with
  | upgraded done =>
    cases move with
    | leaves | drains => exact .gone (drain_over _ _ _).1
    | runs | rests => exact .upgraded rfl
    | _ => exact .upgraded done
  | switched stream steps control =>
    cases move with
    | refuses | accepts | closes | installs => exact .switched stream steps control
    | marks telling | calls telling =>
      rw [control] at telling
      cases telling
      exact .switched stream _ rfl
    | runs | rests => exact .upgraded rfl
    | fails _ there | opens there | enters there | receives _ _ there | driverEnds _ there
    | starts _ _ there | turns there | switches _ there | continues there | returns there
    | leaves there | drains there | ends there => simp [control] at there
  | gone control =>
    cases move with
    | leaves | drains => exact .gone (drain_over _ _ _).1
    | fails | ends => exact .gone rfl
    | refuses | accepts | closes | installs => exact .gone control
    | opens there | enters there | receives _ _ there | driverEnds _ there | starts _ _ there
    | turns there | switches _ there | marks there | calls there | continues there
    | returns there | runs _ there | rests there => simp [there, Control.isOver] at control

/-- A channel comes with the end of its exchange. -/
theorem Move.channel (move : Move s taken more t) :
    t.hasChannel = s.hasChannel ∨ Barred t := by
  cases move with
  | switches stream => exact .inr (.switched stream _ rfl)
  | leaves | drains => exact .inr (.gone (drain_over _ _ _).1)
  | _ => exact .inl rfl

theorem barred_run {events : List Event} (upgraded : (run initial events).hasChannel = true) :
    Barred (run initial events) := by
  refine run_keeps (fun s _ _ => s.hasChannel = true → Barred s)
    (fun absent => Bool.noConfusion absent) ?_ events upgraded
  intro s t taken told move before past h upgraded
  rcases move.channel with same | barred
  · exact (h (same ▸ upgraded)).move move
  · exact barred

/-- Once barred, no exchange starts. -/
theorem Barred.run (h : Barred s) (events : List Event) : exchanged (effects s events) = [] := by
  have kept := run_keeps (fun s _ told => Barred s ∧ exchanged told = []) ⟨h, rfl⟩ ?_ events
  · exact kept.2
  · intro s t taken told move before past ⟨barred, nothing⟩
    refine ⟨barred.move move, ?_⟩
    rw [exchanged_append, nothing]
    rcases move.exchanged_cases with nothing | ⟨stream, -, waiting, -, fresh⟩
    · exact nothing
    · cases barred with
      | upgraded done => simp [fresh] at done
      | switched _ _ control => simp [waiting] at control
      | gone control => simp [waiting, Control.isOver] at control

end Starts

theorem tale_run (events : List Event) :
    Tale (run initial events) (received initial events) (effects initial events) ∧
      Apart (effects initial events) := by
  refine run_keeps (fun s requests told => Tale s requests told ∧ Apart told) ⟨?_, ?_⟩ ?_ events
  · exact .early (.inl rfl) rfl rfl rfl rfl rfl
  · intro first stream rest split
    simp at split
  · intro s t taken told move requests past ⟨tale, apart⟩
    exact ⟨tale.move move, apart.move tale move⟩

/-- How a run serves the requests that it receives: in order, one when all before it are over, and
none after an upgrade. Between two exchanges all that were started have been answered. What has not
been answered when the task leaves its loop is completed in order, before the shutdown. -/
structure Served (events : List Event) : Prop where
  inOrder : exchanged (effects initial events) <+: received initial events
  alone : ∀ first stream rest, effects initial events = first ++ .exchange stream :: rest →
    completed first = exchanged first
  last : (run initial events).hasChannel = true →
    ∀ later, exchanged (effects (run initial events) later) = []
  busy : (run initial events).control = .waiting →
    (run initial events).queue = [] ∨ (run initial events).job.isSome = true ∨
      (run initial events).upgraded = true
  back : (run initial events).control = .waiting → (run initial events).job = none →
    (run initial events).upgraded = false → (run initial events).idle = true
  between : (run initial events).control = .waiting →
    (∀ stream stage, (run initial events).job ≠ some (.exchanging stream stage)) →
    ∃ before, received initial events = before ++ (run initial events).queue ∧
      Answered (effects initial events) before
  inParts : ∃ parts, callbacks (effects initial events) = spoken parts ∧
    parts.map (·.stream) <+: received initial events ∧
    (∀ p ∈ parts, Orderly p.callbacks) ∧ ∀ p ∈ parts.dropLast, Finished p.callbacks
  orderly : (received initial events).Nodup →
    ∀ stream, Orderly (heardBy stream (effects initial events))
  draining : ∀ error rest, (run initial events).control = .draining error rest →
    ∃ before, received initial events = before ++ rest ∧ Answered (effects initial events) before
  settled : Gone (run initial events) → Answered (effects initial events) (received initial events)
  completed : Gone (run initial events) → (received initial events).Nodup →
    ∀ stream ∈ received initial events, Finished (heardBy stream (effects initial events))

/-- Requests are exchanged in order, one at a time, without stalling. -/
theorem requests_served_in_order (events : List Event) : Served events := by
  obtain ⟨tale, apart⟩ := tale_run events
  refine
    { inOrder := tale.started, alone := apart, last := fun upgraded => (barred_run upgraded).run,
      busy := ?_, back := ?_, between := ?_, inParts := tale.parts, orderly := ?_,
      draining := fun _ _ => tale.draining, settled := tale.settled, completed := ?_ }
  · intro waiting
    by_cases free : (run initial events).job = none
    · by_cases fresh : (run initial events).upgraded = false
      · exact .inl (sender_of_idle waiting free fresh).2
      · exact .inr (.inr (by simpa using fresh))
    · exact .inr (.inl (by simpa using Option.isSome_iff_ne_none.mpr free))
  · exact fun waiting free fresh => (sender_of_idle waiting free fresh).1
  · intro waiting unlent
    obtain ⟨parts, heard, finished, order, -⟩ := tale.of_idle waiting unlent
    exact ⟨parts.map (·.stream), order, parts, heard, rfl, finished⟩
  · intro distinct stream
    obtain ⟨parts, heard, order, orderly, -⟩ := tale.parts
    rw [heardBy, heard]
    by_cases part : stream ∈ parts.map (·.stream)
    · obtain ⟨p, mem, rfl⟩ := List.mem_map.mp part
      rw [heard_part (distinct.sublist order.sublist) mem]
      exact orderly p mem
    · rw [heard_absent part]
      exact .inl ⟨[], false, [], List.nil_prefix⟩
  · intro ended distinct stream mem
    exact (tale.settled ended).finished distinct mem

/-- Two requests, the second of which waits until the first is over and is then cut short by the end
of the task, with a third one in the queue. -/
theorem second_request_waits :
    let before : List Event := [.dialled, .returned, .request 0 none, .request 1 none, .receive,
      .receive, .responded ⟨200, by decide⟩ [] true, .returned, .returned, .returned,
      .bodyArrived [7], .returned, .exchangeEnded, .returned]
    let closed := before ++ [.responded ⟨200, by decide⟩ [] true, .returned, .request 2 none,
      .returned, .returned, .receive, .close none, .receive]
    let ended := closed ++ [.returned, .returned]
    (run initial before).job = some (.exchanging 1 .requested) ∧
      heardBy 0 (effects initial before) = course [] true [[7]] ++ [.complete none] ∧
      exchanged (effects initial before) = [0, 1] ∧
      exchanged (effects initial before) <+: received initial before ∧
      (∃ answered, received initial closed = answered ++ [2] ∧
        Answered (effects initial closed) answered) ∧
      received initial ended = [0, 1, 2] ∧
      heardBy 1 (effects initial ended) =
        course [] true [] ++ [.complete (some .connectionClosed)] ∧
      heardBy 2 (effects initial ended) = [.complete (some .connectionClosed)] ∧
      ∀ stream ∈ [0, 1, 2], Finished (heardBy stream (effects initial ended)) := by
  intro before closed ended
  exact ⟨by decide, by decide, by decide, (requests_served_in_order before).inOrder,
    (requests_served_in_order closed).draining none [2] (by decide), by decide, by decide,
    by decide, (requests_served_in_order ended).completed (.inl (by decide)) (by decide)⟩

end WebSocketClient.Connection
