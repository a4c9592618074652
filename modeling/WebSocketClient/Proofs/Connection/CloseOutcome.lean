import WebSocketClient.Proofs.Connection.ClosedTask
import WebSocketClient.Proofs.Connection.Lifecycle
import WebSocketClient.Proofs.Handshake.Reporting

/-! # What a close comes to

The first close of an open WebSocket is followed from the task to its listener and to the user. -/
namespace WebSocketClient.Connection

namespace Host

def Act.event? : Act → Option Event
  | .event e => some e
  | .handle _ => none

def events (acts : List Act) : List Event := acts.filterMap Act.event?

section Task

variable {h : Host} {acts : List Act}

/-- What the handler does is not the doing of the task. -/
theorem next_handle (h : Host) (input : Framing.Input) :
    (h.next (.handle input)).1.task = h.task ∧
      ∀ effect, .told effect ∉ (h.next (.handle input)).2 := by
  simp only [next]
  split <;> simp

theorem run_task (h : Host) (acts : List Act) :
    (h.run acts).task = Connection.run h.task (events acts) := by
  induction acts generalizing h with
  | nil => rfl
  | cons act acts ih =>
    cases act with
    | event e => exact ih (h.next (.event e)).1
    | handle input =>
      rw [← (next_handle h input).1]
      exact ih (h.next (.handle input)).1

theorem mem_entries {effect : Effect} :
    .told effect ∈ h.entries acts ↔ effect ∈ effects h.task (events acts) := by
  induction acts generalizing h with
  | nil => simp [entries, events, effects]
  | cons act acts ih =>
    rw [entries, List.mem_append, ih]
    cases act with
    | event e => simp [next, events, Act.event?, effects]
    | handle input =>
      obtain ⟨same, silent⟩ := next_handle h input
      rw [same]
      exact or_iff_right (silent effect)

theorem entries_append (h : Host) (first rest : List Act) :
    h.entries (first ++ rest) = h.entries first ++ (h.run first).entries rest := by
  induction first generalizing h with
  | nil => rfl
  | cons act first ih => simp only [List.cons_append, entries, ih, List.append_assoc]; rfl

end Task

section User

variable {told : List Entry} {m : Allocator} {o : Options} {a : Handshake.Attempt}
  {dial : Handshake.Dial} {heardOf : List Handshake.Event} {socket : SocketId}

/-- The user is told of a shutdown only when the listener is. -/
theorem shutdown_heard {error : Option Error}
    (shutdown : .shutdown socket error ∈ Handshake.effects a heardOf) :
    .shutDown error ∈ heardOf := by
  induction heardOf generalizing a with
  | nil => cases shutdown
  | cons e rest ih =>
    rcases List.mem_append.mp shutdown with now | later
    · rw [(Handshake.shutdown_told now).1]
      exact List.mem_cons_self
    · exact List.mem_cons_of_mem _ (ih later)

theorem shutdown_mem_told {error : Option Error} (heard : .shutdown error ∈ heard told) :
    .told (.shutdown error) ∈ told := by
  obtain ⟨entry, mem, hears⟩ := List.mem_filterMap.mp heard
  unfold Entry.heard? at hears
  split at hears
  · cases hears
  · cases hears
    exact mem
  · cases hears
  · cases hears
  · cases hears

/-- Only the connection shuts an attempt down. -/
theorem told_of_heard {error : Option Error}
    (hears : List.Forall₂ Hears (heard told) heardOf) (shutdown : .shutDown error ∈ heardOf) :
    .told (.shutdown error) ∈ told := by
  refine shutdown_mem_told ?_
  generalize heard told = calls at hears ⊢
  induction hears with
  | nil => cases shutdown
  | cons first _ ih =>
    rcases List.mem_cons.mp shutdown with same | later
    · subst same
      cases first
      exact List.mem_cons_self
    · exact List.mem_cons_of_mem _ (ih later)

theorem hears_concat {calls : List Effect} {last : Effect}
    (hears : List.Forall₂ Hears (calls ++ [last]) heardOf) :
    ∃ earlier e, heardOf = earlier ++ [e] ∧ Hears last e := by
  induction calls generalizing heardOf with
  | nil =>
    obtain _ | ⟨first, nothing⟩ := hears
    cases nothing
    exact ⟨[], _, rfl, first⟩
  | cons call calls ih =>
    obtain _ | ⟨first, others⟩ := hears
    obtain ⟨earlier, e, rfl, last⟩ := ih others
    exact ⟨_ :: earlier, e, rfl, last⟩

/-- The user of an open WebSocket is told of the shutdown as the listener is. -/
theorem Lifetime.tells_user {s : State} (h : Lifetime s told)
    (started : Handshake.start m o = .ok (a, dial)) (configured : o.onShutdown = true)
    (hears : List.Forall₂ Hears (heard told) heardOf) {reaction : SetupReaction}
    {response : Response}
    (opened : .setup reaction (.opened socket) response ∈ Handshake.effects a heardOf)
    (error : Option Error) :
    .shutdown socket error ∈ Handshake.effects a heardOf ↔ .told (.shutdown error) ∈ told := by
  refine ⟨fun shutdown => told_of_heard hears (shutdown_heard shutdown), fun shutdown => ?_⟩
  obtain ⟨-, first, report, -⟩ := h.of_shutdown shutdown
  have kept := h.contract hears
  rw [← heard_driven, report, heard, List.filterMap_append] at hears
  obtain ⟨earlier, e, rfl, last⟩ := hears_concat hears
  cases last
  rw [Handshake.effects_concat, List.mem_append] at opened ⊢
  have before : .setup reaction (.opened socket) response ∈ Handshake.effects a earlier := by
    refine opened.resolve_right fun now => ?_
    simp only [Handshake.next, Handshake.onShutDown] at now
    split at now <;> simp at now
  have told := Handshake.opened_is_shut_down (Handshake.start_fresh started) kept before
  rw [configured, if_pos rfl] at told
  exact .inr (by simp [told])

end User

section Outcome

variable {handlers : HandlerId → Framing.Handler} {before : List Act}

def closedTask (handlers : HandlerId → Framing.Handler) (before : List Act) : State :=
  ((Host.mk initial handlers).run (before ++ [.event (.close none)])).task

theorem closedTask_closing (established : Established ((Host.mk initial handlers).run before).task) :
    Closing (closedTask handlers before) := by
  rw [run_task] at established
  have closing := established.closing
  rw [closedTask, run_task, events, List.filterMap_append, Connection.run, List.foldl_append]
  exact closing

/-- Nothing is told of a shutdown before the first close, nor by it. -/
theorem told_since_close (established : Established ((Host.mk initial handlers).run before).task)
    (after : List Act) (error : Option Error) :
    .told (.shutdown error) ∈
        (Host.mk initial handlers).entries (before ++ .event (.close none) :: after) ↔
      .shutdown error ∈ effects (closedTask handlers before) (events after) := by
  have untold : .told (.shutdown error) ∉ (Host.mk initial handlers).entries before := by
    intro shutdown
    have shut := ((lifetime_run handlers before).of_shutdown shutdown).1.isOpen
    simp [established.isOpen] at shut
  have silent : Entry.told (.shutdown error) ∉
      (((Host.mk initial handlers).run before).next (.event (.close none))).2 := by
    simp [next, Connection.next, onUser, established.isOpen]
  rw [entries_append, List.mem_append, or_iff_right untold, entries, List.mem_append,
    or_iff_right silent, mem_entries, closedTask, run_concat]

theorem run_since_close (handlers : HandlerId → Framing.Handler) (before after : List Act) :
    ((Host.mk initial handlers).run (before ++ .event (.close none) :: after)).task =
      Connection.run (closedTask handlers before) (events after) := by
  rw [closedTask, run_task, run_task, ← List.singleton_append, ← List.append_assoc, events,
    List.filterMap_append, Connection.run, List.foldl_append]
  rfl

/-- What comes of the first close of an open WebSocket. The shutdown is told with what the task sees
first, once there is nothing left to do, and until then something can be done. -/
structure ClosesWith (after : List Act) (closed now : State) (told : List Entry) : Prop where
  cause : ∀ error, .told (.shutdown error) ∈ told →
    ∃ cause, firstSeen closed (events after) = some cause ∧ error = cause.error
  done : (∃ error, .told (.shutdown error) ∈ told) ↔ work now = 0
  turn : work now ≠ 0 → isTurn now .receive = true ∨ isTurn now .returned = true
  bound : turns closed (events after) + work now ≤ work closed
  user : ∀ m (o : Options) a dial, Handshake.start m o = .ok (a, dial) → o.onShutdown = true →
    ∀ heardOf, List.Forall₂ Hears (heard told) heardOf →
    ∀ reaction socket response,
      .setup reaction (.opened socket) response ∈ Handshake.effects a heardOf →
      ∀ error, .shutdown socket error ∈ Handshake.effects a heardOf ↔
        .told (.shutdown error) ∈ told

end Outcome

/-- A close of an open WebSocket and the outcome of its handler compete, and whichever the task sees
first decides. -/
theorem first_seen_decides (handlers : HandlerId → Framing.Handler) (before after : List Act)
    (established : Established ((Host.mk initial handlers).run before).task) :
    ClosesWith after (closedTask handlers before)
      ((Host.mk initial handlers).run (before ++ .event (.close none) :: after)).task
      ((Host.mk initial handlers).entries (before ++ .event (.close none) :: after)) := by
  have start : Course (closedTask handlers before) [] none :=
    .closing (closedTask_closing established) rfl
  obtain ⟨course, bound⟩ := start.run (events after)
  rw [List.nil_append, Option.none_or] at course
  rw [← run_since_close] at course bound
  have since := told_since_close established after
  exact {
    cause := fun error shutdown => course.error ((since error).mp shutdown)
    done := (exists_congr since).trans course.over_iff
    turn := course.turn
    bound := bound
    user := fun m o a dial started configured heardOf hears reaction socket response opened =>
      (lifetime_run handlers _).tells_user started configured hears opened }

/-- An upgrade, and a frame that is being told to its callback. -/
def framingActs : List Act := framedActs.take 14

def heardWith (error : Option Error) : List Handshake.Event :=
  [.connected 0 (.accepted 0), .headers 0 none [],
    .completed 0 (some .switchingProtocols) none (some 0) (.installed 0), .shutDown error]

theorem hears_heardWith (error : Option Error) :
    List.Forall₂ Hears [.setup none, .callback 0 (.headers []), .callback 0 (.complete none),
      .shutdown error] (heardWith error) :=
  .cons (.connected 0 _) (.cons (.headers 0 [] _) (.cons (.completed 0 none _ _ _)
    (.cons (.shutDown error) .nil)))

theorem close_is_seen_first :
    ∃ a dial, Handshake.start (.doubling 4096) Handshake.plainOptions = .ok (a, dial) ∧
      Established (framedHost.run framingActs).task ∧
      firstSeen (closedTask framedHost.handlers framingActs) [.receive] = some .close ∧
      .shutdown 0 none ∈ Handshake.effects a (heardWith none) := by
  have established : Established (framedHost.run framingActs).task :=
    ⟨by decide, by decide, by decide⟩
  have outcome := first_seen_decides framedHost.handlers framingActs [.event .receive] established
  obtain ⟨error, shutdown⟩ := outcome.done.mpr (by decide)
  obtain ⟨seen, first, rfl⟩ := outcome.cause error shutdown
  have close : firstSeen (closedTask framedHost.handlers framingActs) [.receive] = some .close := by
    decide
  obtain rfl : seen = .close := Option.some.inj (first.symm.trans close)
  have hears : heard (framedHost.entries (framingActs ++ [.event (.close none), .event .receive])) =
      [.setup none, .callback 0 (.headers []), .callback 0 (.complete none), .shutdown none] := by
    decide
  refine ⟨_, _, rfl, established, close, ?_⟩
  refine (outcome.user (.doubling 4096) Handshake.plainOptions _ _ rfl rfl (heardWith none) ?_
    ⟨[], none, false⟩ 0 ⟨some .switchingProtocols, []⟩ (by decide) none).mpr shutdown
  exact hears ▸ hears_heardWith none

/-- The callback closes the WebSocket and asks to stop, and the task sees the handler stop. -/
def abortedActs : List Act :=
  [.handle (.answer false), .handle (.answer true),
    .event (.handlerEnded (some .frameCallbackAborted)), .event .returned]

/-- The handler had not stopped when the WebSocket was closed, and the user is told of its abort. -/
theorem outcome_is_seen_first :
    ∃ a dial, Handshake.start (.doubling 4096) Handshake.plainOptions = .ok (a, dial) ∧
      Established (framedHost.run framingActs).task ∧
      ((framedHost.run framingActs).handlers 5).result? = none ∧
      ((framedHost.run (framingActs ++ .event (.close none) :: abortedActs.take 2)).handlers
        5).result? = some (some .frameCallbackAborted) ∧
      List.Forall₂ Hears
        (heard (framedHost.entries (framingActs ++ .event (.close none) :: abortedActs)))
        (heardWith (some .frameCallbackAborted)) ∧
      .shutdown 0 (some .frameCallbackAborted) ∈
        Handshake.effects a (heardWith (some .frameCallbackAborted)) ∧
      .shutdown 0 none ∉ Handshake.effects a (heardWith (some .frameCallbackAborted)) := by
  have hears : heard (framedHost.entries (framingActs ++ .event (.close none) :: abortedActs)) =
      [.setup none, .callback 0 (.headers []), .callback 0 (.complete none),
        .shutdown (some .frameCallbackAborted)] := by
    decide
  refine ⟨_, _, rfl, ⟨by decide, by decide, by decide⟩, by decide, by decide, ?_, by decide,
    by decide⟩
  exact hears ▸ hears_heardWith _

end Host

end WebSocketClient.Connection
