import WebSocketClient.Proofs.Frame.Schedule
import WebSocketClient.Proofs.Framing.Link

/-! # Reading a byte stream plainly

The plain reading of a byte stream decodes it as a whole, without any window. What a link still has
to tell its callbacks, and how it will end, is the plain reading of the octets that its handler has
not taken yet. Every step of the handler tells the first part of it and leaves the rest. -/
namespace WebSocketClient.Frame

def upToClose : List Event → List Event
  | [] => []
  | e :: rest => if e.isCloseComplete then [e] else e :: upToClose rest

theorem join_of_close {event : Event} (close : event.isCloseComplete = true)
    (events : List Event) : join event events = event :: events := by
  cases event with
  | complete => rfl
  | begin | payload => cases close

section

variable {event : Event} (other : event.isCloseComplete = false) (events : List Event)
include other

theorem any_close_join :
    (join event events).any Event.isCloseComplete = events.any Event.isCloseComplete := by
  unfold join
  split
  · split <;> simp [Event.isCloseComplete]
  · simp [other]

theorem upToClose_join : upToClose (join event events) = join event (upToClose events) := by
  cases event with
  | begin => rfl
  | complete => simp [join, upToClose, other]
  | payload frame data =>
    rcases events with _ | ⟨next, rest⟩
    · rfl
    · cases next with
      | begin => rfl
      | payload next more =>
        by_cases same : frame = next <;> simp [join, upToClose, Event.isCloseComplete, same]
      | complete next =>
        by_cases close : next.opcode = .close <;>
          simp [join, upToClose, Event.isCloseComplete, close]

end

end WebSocketClient.Frame

namespace WebSocketClient.Framing

/-- Puts a call in front, joined with the next if both pass on payload of one frame. -/
def Call.join : Call → List Call → List Call
  | .event (.payload frame data), .event (.payload other more) :: rest =>
    if frame = other then .event (.payload frame (data ++ more)) :: rest
    else .event (.payload frame data) :: .event (.payload other more) :: rest
  | call, rest => call :: rest

def joinedCalls (calls : List Call) : List Call := calls.foldr Call.join []

/-- The calls of callbacks for a byte stream, payload joined, and how the handler ends. -/
structure Reading where
  calls : List Call
  result : Option Error
deriving DecidableEq

namespace Reading

def after (told : List Call) (r : Reading) : Reading :=
  { r with calls := told.foldr Call.join r.calls }

@[simp] theorem after_nil (r : Reading) : r.after [] = r := rfl

@[simp] theorem after_after (first second : List Call) (r : Reading) :
    (r.after second).after first = r.after (first ++ second) := by
  simp [after, List.foldr_append]

end Reading

def interruption (pending : Option Frame.Pending) (error : Error) : List Call :=
  (pending.map fun p => Call.interrupted p.frame error).toList

/-- A close frame ends the reading without an error. Without one, a fault does, or the octets do,
and then a frame in progress is interrupted. -/
def Reading.of (s : Frame.Summary) (ending : Ending) : Reading :=
  if s.events.any Frame.Event.isCloseComplete then ⟨(Frame.upToClose s.events).map .event, none⟩
  else
    match s.fault with
    | some cause => ⟨s.events.map .event, some (.violation cause)⟩
    | none => ⟨s.events.map .event ++ interruption s.pending ending.error, some ending.error⟩

def plainReading (octets : Bytes) (ending : Ending) : Reading :=
  .of (Frame.Decoder.initial.drain octets).summary ending

/-- Calls of events are joined as the events are, also before an interruption. -/
theorem join_event (event : Frame.Event) (events : List Frame.Event)
    (pending : Option Frame.Pending) (error : Error) :
    Call.join (.event event) (events.map .event ++ interruption pending error) =
      (Frame.join event events).map .event ++ interruption pending error := by
  cases event with
  | begin | complete => rfl
  | payload frame data =>
    rcases events with _ | ⟨next, rest⟩
    · cases pending <;> rfl
    · cases next with
      | begin | complete => rfl
      | payload other more => by_cases same : frame = other <;> simp [Call.join, Frame.join, same]

theorem join_event_last (event : Frame.Event) (events : List Frame.Event) :
    Call.join (.event event) (events.map .event) = (Frame.join event events).map .event := by
  simpa [interruption] using join_event event events none .connectionClosed

theorem Reading.of_after (event : Frame.Event) (s : Frame.Summary) (ending : Ending) :
    Reading.of (s.after [event]) ending =
      if event.isCloseComplete then ⟨[.event event], none⟩
      else (Reading.of s ending).after [.event event] := by
  rcases s with ⟨events, fault, rest, pending, messageOpen⟩
  change Reading.of ⟨Frame.join event events, fault, rest, pending, messageOpen⟩ ending = _
  by_cases close : event.isCloseComplete
  · simp [of, Frame.join_of_close, Frame.upToClose, close]
  rw [Bool.not_eq_true] at close
  simp only [of, Frame.any_close_join close, Frame.upToClose_join close, close, Bool.false_eq_true,
    if_false]
  by_cases closed : events.any Frame.Event.isCloseComplete
  · simp only [closed, if_true, after, List.foldr_cons, List.foldr_nil, join_event_last]
  · simp only [closed, if_false, Bool.false_eq_true]
    cases fault with
    | some cause => simp only [after, List.foldr_cons, List.foldr_nil, join_event_last]
    | none => simp only [after, List.foldr_cons, List.foldr_nil, join_event]

/-- What is still to be told in a phase, given the reading of the octets that are left. -/
def Phase.outlook (left : Reading) : Phase → Reading
  | .ready | .reading | .blocked => left
  | .calling event => if event.isCloseComplete then ⟨[], none⟩ else left
  | .interrupting error => ⟨[], some error⟩
  | .finished error => ⟨[], error⟩

theorem outlook_proceed (h : Handler) (event : Frame.Event) (left : Reading) :
    (h.proceed event).phase.outlook left = (Phase.calling event).outlook left := by
  unfold Handler.proceed Phase.outlook
  by_cases close : event.isCloseComplete <;> simp [close]

namespace Link

def left (l : Link) : Reading :=
  .of (l.handler.decoder.whole (l.handler.buffer ++ l.coming.flatten)) l.ending

/-- What the callbacks have not been told yet, and how the handler will end. -/
def outlook (l : Link) : Reading := l.handler.phase.outlook l.left

theorem initial_outlook (window : Nat) (manual callbacks : Bool) (chunks : List Bytes)
    (ending : Ending) :
    (initial window manual callbacks chunks ending).outlook =
      plainReading chunks.flatten ending := by
  rw [plainReading, Frame.Decoder.drain_summary (by decide) Frame.Decoder.initial_sized]
  rfl

/-- What the reading rests on: sizes are in range, and a handler that reads has decoded what it
could. -/
structure Sound (l : Link) : Prop extends l.Valid where
  sized : l.handler.decoder.Sized
  dry : l.handler.phase = .reading → l.handler.decoder.Dry l.handler.buffer

/-- A decoding step takes its part of what is left, whatever window there is. -/
theorem Sound.left_eq {l : Link} (sound : l.Sound) {limit : Nat} {r : Frame.Decoded}
    (step : (l.handler.decoder.withLimit limit).decode l.handler.buffer = r) :
    l.left = .of (r.whole l.coming.flatten) l.ending := by
  have sized : (l.handler.decoder.withLimit limit).Sized := sound.sized
  have whole := (Frame.Decoder.whole_step sized l.handler.buffer l.coming.flatten).2.2
  rw [step] at whole
  rw [left, ← whole]
  rfl

theorem Sound.outlook_eq {l : Link} (sound : l.Sound) {limit : Nat}
    (within : l.worker.seen = some limit) : l.outlook = l.left := by
  have ready : l.handler.phase = .ready := sound.settled (Option.isSome_of_eq_some within)
  rw [outlook, ready]
  rfl

end Link

/-- A failure tells the callbacks of a frame in progress, and leaves nothing else to tell. -/
theorem fail_outlook (h : Handler) (error : Error) (coming : List Bytes) (ending : Ending) :
    (Link.mk ⟨(h.fail error).1, none⟩ coming ending).outlook = ⟨[], some error⟩ ∧
      (h.fail error).2 = if h.callbacks then interruption h.decoder.pending error else [] := by
  unfold Handler.fail Frame.Decoder.current interruption
  cases h.decoder.pending <;> cases h.callbacks <;> exact ⟨rfl, rfl⟩

theorem dispatch_outlook (h : Handler) (event : Frame.Event) (coming : List Bytes)
    (ending : Ending) :
    (Link.mk ⟨(h.dispatch event).1, none⟩ coming ending).outlook =
      if event.isCloseComplete then ⟨[], none⟩
      else .of (h.decoder.whole (h.buffer ++ coming.flatten)) ending := by
  have phase : (h.dispatch event).1.phase = .calling event ∨
      (h.dispatch event).1.phase = (h.proceed event).phase := by
    unfold Handler.dispatch
    dsimp only
    split
    · exact .inl rfl
    · exact .inr rfl
  rw [Link.outlook, Link.left]
  simp only [Link.handler, Handler.dispatch_decoder, Handler.dispatch_buffer]
  rcases phase with calling | proceeding
  · rw [calling]
    rfl
  · rw [proceeding, outlook_proceed]
    rfl

/-- Every step tells the first part of what there is to tell. -/
theorem Goes.outlook {l after : Link} {a : Act} {calls : List Call} (goes : Goes l a after calls)
    (sound : l.Sound) :
    ∃ told, l.outlook = after.outlook.after told ∧
      calls = if l.handler.callbacks then told else [] := by
  have silent : ([] : List Call) = if l.handler.callbacks then [] else [] := by simp
  -- Only an event that is passed on and the end of the octets have anything to tell.
  cases goes with
  | turn works =>
    cases works with
    | ignore => exact ⟨[], rfl, silent⟩
    | look => exact ⟨[], rfl, silent⟩
    | @pass limit event after rest within step =>
      refine ⟨[.event event], ?_, Handler.dispatch_calls ..⟩
      rw [sound.outlook_eq within, sound.left_eq step, dispatch_outlook, Frame.Decoded.whole]
      dsimp only
      rw [Reading.of_after]
      split
      · cases event <;> rfl
      · rfl
    | @refuse limit cause after rest within step =>
      obtain ⟨outlook, told⟩ := fail_outlook
        { l.handler with decoder := after, buffer := rest } (.violation cause) l.coming l.ending
      have idle : after.pending = none := Frame.Decoder.idle_of_fault step
      refine ⟨[], ?_, ?_⟩
      · rw [sound.outlook_eq within, sound.left_eq step]
        exact outlook.symm
      · rw [idle] at told
        exact told
    | @starve limit after rest within step =>
      obtain ⟨rfl, rfl⟩ := Frame.Decoder.decode_nothing step
      refine ⟨[], ?_, silent⟩
      rw [sound.outlook_eq within, Reading.after_nil]
      unfold Link.outlook Link.handler
      dsimp only
      split <;> rfl
    | unblock between blocked =>
      refine ⟨[], ?_, silent⟩
      rw [Link.outlook, Link.handler, blocked]
      rfl
  | widen => exact ⟨[], rfl, silent⟩
  | answer works =>
    cases works with
    | ignore => exact ⟨[], rfl, silent⟩
    | proceed between calling =>
      refine ⟨[], ?_, silent⟩
      rw [Link.outlook, Link.handler, calling, Reading.after_nil, ← outlook_proceed]
      rfl
    | finish between interrupting =>
      refine ⟨[], ?_, silent⟩
      rw [Link.outlook, Link.handler, interrupting]
      rfl
  | wait => exact ⟨[], rfl, silent⟩
  | fill reading coming =>
    refine ⟨[], ?_, silent⟩
    rw [Link.outlook, reading.2, Link.left, coming, List.flatten_cons, ← List.append_assoc]
    rfl
  | stop reading coming =>
    obtain ⟨outlook, told⟩ := fail_outlook l.handler l.ending.error l.coming l.ending
    refine ⟨interruption l.handler.decoder.pending l.ending.error, ?_, told⟩
    -- The handler could decode nothing before it read, so a frame in progress is all that is left.
    have dry := sound.dry reading.2
    rw [outlook, Link.outlook, reading.2, Link.left, coming, List.flatten_nil, List.append_nil,
      Frame.Decoder.whole_of_dry dry]
    cases l.handler.decoder.pending <;> rfl

namespace Link

theorem initial_sound (window : Nat) (manual callbacks : Bool) {chunks : List Bytes}
    (nonempty : ∀ chunk ∈ chunks, chunk ≠ []) (ending : Ending) :
    (initial window manual callbacks chunks ending).Sound where
  toValid := initial_valid window manual callbacks nonempty ending
  sized := Frame.Decoder.initial_sized
  dry := by
    intro reading
    cases reading

theorem Sound.next_sized {l : Link} (h : l.Sound) (a : Act) :
    (l.next a).1.handler.decoder.Sized := by
  have goes := h.toValid.goes a
  generalize (l.next a).1 = after at goes ⊢
  generalize (l.next a).2 = calls at goes
  have decoded {limit : Nat} {r : Frame.Decoded}
      (step : (l.worker.handler.decoder.withLimit limit).decode l.worker.handler.buffer = r) :
      r.decoder.Sized := by
    have sized : (l.worker.handler.decoder.withLimit limit).Sized := h.sized
    rw [← step]
    exact (Frame.Decoder.whole_step sized _ []).1
  cases goes with
  | turn works =>
    cases works with
    | pass within step =>
      simpa [handler] using decoded step
    | refuse within step =>
      simpa [handler] using decoded step
    | starve within step => exact decoded step
    | _ => exact h.sized
  | answer works =>
    cases works <;> exact h.sized
  | stop =>
    simpa [handler] using h.sized
  | _ => exact h.sized

theorem Sound.next_dry {l : Link} (h : l.Sound) (a : Act)
    (reading : (l.next a).1.handler.phase = .reading) :
    (l.next a).1.handler.decoder.Dry (l.next a).1.handler.buffer := by
  have goes := h.toValid.goes a
  generalize (l.next a).1 = after at goes reading ⊢
  generalize (l.next a).2 = calls at goes
  cases goes with
  | turn works =>
    cases works with
    | ignore => exact h.dry reading
    | look => exact h.dry reading
    | pass => exact absurd reading (Handler.dispatch_busy _ _).not_reading
    | refuse => exact absurd reading (Handler.fail_busy _ _).not_reading
    | @starve limit after rest within step =>
      obtain ⟨rfl, rfl⟩ := Frame.Decoder.decode_nothing step
      refine Frame.Decoder.dry_of_nothing step ?_
      intro awaiting shut
      -- A frame that waits for window would have blocked the handler.
      have blocked : ((l.worker.handler.decoder.withLimit limit).isAwaitingPayload &&
          limit == 0) = true := by
        simp only [shut, beq_self_eq_true, Bool.and_true]
        exact awaiting
      simp only [handler, blocked, if_true] at reading
      cases reading
    | unblock => cases reading
  | widen => exact h.dry reading
  | answer works =>
    cases works with
    | ignore => exact h.dry reading
    | proceed => exact absurd reading (Handler.proceed_busy _ _).not_reading
    | finish => cases reading
  | wait => exact h.dry reading
  | fill => cases reading
  | stop => exact absurd reading (Handler.fail_busy _ _).not_reading

theorem Sound.next {l : Link} (h : l.Sound) (a : Act) : (l.next a).1.Sound where
  toValid := h.toValid.next a
  sized := h.next_sized a
  dry := h.next_dry a

theorem Sound.run {l : Link} (h : l.Sound) (acts : List Act) : (l.run acts).Sound := by
  induction acts using List.reverseRecOn with
  | nil => exact h
  | append_singleton acts a ih =>
    rw [run_concat]
    exact ih.next a

theorem next_callbacks (l : Link) (a : Act) :
    (l.next a).1.handler.callbacks = l.handler.callbacks := l.worker.next_callbacks (l.input a)

theorem run_callbacks (l : Link) (acts : List Act) :
    (l.run acts).handler.callbacks = l.handler.callbacks := by
  induction acts using List.reverseRecOn with
  | nil => rfl
  | append_singleton acts a ih => rw [run_concat, next_callbacks, ih]

/-- What has been told so far and what is still to be told make up the same reading all along. -/
theorem Sound.run_outlook {l : Link} (sound : l.Sound) (acts : List Act) :
    ∃ told, l.outlook = (l.run acts).outlook.after told ∧
      l.calls acts = if l.handler.callbacks then told else [] := by
  induction acts using List.reverseRecOn with
  | nil => exact ⟨[], rfl, by simp [calls]⟩
  | append_singleton acts a ih =>
    obtain ⟨told, outlook, calls⟩ := ih
    obtain ⟨more, step, added⟩ := ((sound.run acts).toValid.goes a).outlook (sound.run acts)
    refine ⟨told ++ more, ?_, ?_⟩
    · rw [run_concat, outlook, step, Reading.after_after]
    · rw [calls_concat, calls, added, run_callbacks]
      cases l.handler.callbacks <;> rfl

/-- A link that has ended has told its whole reading, and ends as the reading does. -/
theorem Sound.reading_of_finished {l : Link} (sound : l.Sound) {acts : List Act}
    {error : Option Error} (ended : (l.run acts).handler.phase = .finished error) :
    error = l.outlook.result ∧
      joinedCalls (l.calls acts) = if l.handler.callbacks then l.outlook.calls else [] := by
  obtain ⟨told, outlook, calls⟩ := sound.run_outlook acts
  have last : (l.run acts).outlook = ⟨[], error⟩ := by
    rw [Link.outlook, ended]
    rfl
  rw [last] at outlook
  rw [outlook, calls]
  constructor
  · rfl
  · cases l.handler.callbacks <;> rfl

end Link

end WebSocketClient.Framing
