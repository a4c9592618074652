import WebSocketClient.Proofs.Framing.Interleaving

/-! # Accounting for the read window

Payload of data frames is taken off the window as it is passed on, and never more than is there. So
what has been passed on and what is left of the window add up to what has been granted, wherever in
a turn the grants came. -/
namespace WebSocketClient.Frame

namespace Event

/-- The payload that counts against a window. -/
def dataLength : Event → Nat
  | payload frame data => if frame.opcode.isData then data.length else 0
  | _ => 0

end Event

namespace Decoder

theorem dataLength_le_limit {d after : Decoder} {limit : Nat} {buffer rest : Bytes} {event : Event}
    (step : (d.withLimit limit).decode buffer = ⟨.event event, after, rest⟩) :
    event.dataLength ≤ limit := by
  have decodes := (d.withLimit limit).decodes buffer
  rw [step] at decodes
  cases decodes with
  | begin | complete => exact Nat.zero_le _
  | @deliver p data _ reading split nonempty taken =>
    by_cases isData : p.frame.opcode.isData
    · have allowed : (d.withLimit limit).allowance p = min p.owed limit :=
        allowance_of_data isData
      rw [Event.dataLength, if_pos isData, taken, allowed, List.length_take]
      omega
    · rw [Event.dataLength, if_neg isData]
      exact Nat.zero_le _

/-- What is no payload of a data frame is reported under every limit. -/
theorem decode_free {d : Decoder} {limit : Nat} {buffer : Bytes} {event : Event}
    (reported : ((d.withLimit maxSize).decode buffer).outcome = .event event)
    (free : event.dataLength = 0) :
    ((d.withLimit limit).decode buffer).outcome = .event event := by
  rw [← reported]
  apply decode_withLimit
  intro p reading
  have pending : (d.withLimit maxSize).pending = some p := reading
  rcases outcome_in_frame pending buffer with silent | ⟨-, paid⟩ | ⟨data, nonempty, delivers⟩
  · rw [silent] at reported
    cases reported
  · have nothing : ∀ size, (d.withLimit size).allowance p = 0 := by
      intro size
      exact Nat.le_zero.mp (paid ▸ (d.withLimit size).allowance_le p)
    rw [nothing, nothing]
  · rw [delivers] at reported
    cases reported
    have control : p.frame.opcode.isData = false := by
      by_contra isData
      rw [Bool.not_eq_false] at isData
      simp only [Event.dataLength, isData, if_true] at free
      exact nonempty (List.length_eq_zero_iff.mp free)
    rw [allowance_of_control control, allowance_of_control control]

end Decoder

end WebSocketClient.Frame

namespace WebSocketClient.Framing

def Call.event? : Call → Option Frame.Event
  | event e => some e
  | interrupted _ _ => none

def delivered : List Frame.Event → Nat
  | [] => 0
  | e :: rest => e.dataLength + delivered rest

def granted : List Input → Nat
  | [] => 0
  | .grant size :: rest => size + granted rest
  | _ :: rest => granted rest

theorem delivered_append (first rest : List Frame.Event) :
    delivered (first ++ rest) = delivered first + delivered rest := by
  induction first with
  | nil => simp [delivered]
  | cons e first ih => simp only [List.cons_append, delivered, ih, Nat.add_assoc]

theorem granted_append (first rest : List Input) :
    granted (first ++ rest) = granted first + granted rest := by
  induction first with
  | nil => simp [granted]
  | cons i first ih =>
    cases i with
    | grant size => simp only [List.cons_append, granted, ih, Nat.add_assoc]
    | _ => simpa only [List.cons_append, granted] using ih

namespace Handler

section Fields

variable (h : Handler) (event : Frame.Event) (error : Error)

theorem fail_eq : ∃ phase, (h.fail error).1 = { h with phase } := by
  unfold fail
  split
  · split <;> exact ⟨_, rfl⟩
  · exact ⟨_, rfl⟩

@[simp] theorem fail_decoder : (h.fail error).1.decoder = h.decoder := by
  obtain ⟨phase, same⟩ := h.fail_eq error
  rw [same]

@[simp] theorem fail_buffer : (h.fail error).1.buffer = h.buffer := by
  obtain ⟨phase, same⟩ := h.fail_eq error
  rw [same]

@[simp] theorem fail_window : (h.fail error).1.window = h.window := by
  obtain ⟨phase, same⟩ := h.fail_eq error
  rw [same]

@[simp] theorem fail_manual : (h.fail error).1.manual = h.manual := by
  obtain ⟨phase, same⟩ := h.fail_eq error
  rw [same]

@[simp] theorem fail_callbacks : (h.fail error).1.callbacks = h.callbacks := by
  obtain ⟨phase, same⟩ := h.fail_eq error
  rw [same]

/-- A failure is no event. -/
theorem fail_events : (h.fail error).2.filterMap Call.event? = [] := by
  unfold fail
  split
  · split <;> rfl
  · rfl

theorem charge_eq :
    h.charge event =
      { h with window := if h.manual then h.window - event.dataLength else h.window } := by
  cases event with
  | begin | complete => simp [charge, Frame.Event.dataLength]
  | payload frame data =>
    cases manual : h.manual <;> cases isData : frame.opcode.isData <;>
      simp [charge, Frame.Event.dataLength, manual, isData]
    all_goals rw [← manual]

theorem dispatch_eq : ∃ phase, (h.dispatch event).1 = { h.charge event with phase } := by
  unfold dispatch
  dsimp only
  split <;> exact ⟨_, rfl⟩

@[simp] theorem dispatch_decoder : (h.dispatch event).1.decoder = h.decoder := by
  obtain ⟨phase, same⟩ := h.dispatch_eq event
  rw [same, charge_eq]

@[simp] theorem dispatch_buffer : (h.dispatch event).1.buffer = h.buffer := by
  obtain ⟨phase, same⟩ := h.dispatch_eq event
  rw [same, charge_eq]

@[simp] theorem dispatch_window :
    (h.dispatch event).1.window =
      if h.manual then h.window - event.dataLength else h.window := by
  obtain ⟨phase, same⟩ := h.dispatch_eq event
  rw [same, charge_eq]

@[simp] theorem dispatch_manual : (h.dispatch event).1.manual = h.manual := by
  obtain ⟨phase, same⟩ := h.dispatch_eq event
  rw [same, charge_eq]

@[simp] theorem dispatch_callbacks : (h.dispatch event).1.callbacks = h.callbacks := by
  obtain ⟨phase, same⟩ := h.dispatch_eq event
  rw [same, charge_eq]

theorem dispatch_calls :
    (h.dispatch event).2 = if h.callbacks then [.event event] else [] := by
  simp only [dispatch, charge_eq]
  split <;> rfl

end Fields

end Handler

namespace Worker

variable {w : Worker} {i : Input}

theorem next_manual (w : Worker) (i : Input) : (w.next i).1.handler.manual = w.handler.manual := by
  have works := w.works i
  generalize (w.next i).1 = after at works ⊢
  generalize (w.next i).2 = calls at works
  generalize w.passes i = event at works
  cases works <;> simp [Handler.grant, Handler.proceed]

theorem next_callbacks (w : Worker) (i : Input) :
    (w.next i).1.handler.callbacks = w.handler.callbacks := by
  have works := w.works i
  generalize (w.next i).1 = after at works ⊢
  generalize (w.next i).2 = calls at works
  generalize w.passes i = event at works
  cases works <;> simp [Handler.grant, Handler.proceed]

theorem run_manual (w : Worker) (inputs : List Input) :
    (w.run inputs).handler.manual = w.handler.manual := by
  induction inputs using List.reverseRecOn with
  | nil => rfl
  | append_singleton inputs i ih => rw [run_concat, next_manual, ih]

/-- Callbacks are told of the events that are passed on. -/
theorem next_calls (w : Worker) (i : Input) :
    (w.next i).2.filterMap Call.event? =
      if w.handler.callbacks then (w.passes i).toList else [] := by
  have works := w.works i
  generalize (w.next i).1 = after at works
  generalize (w.next i).2 = calls at works ⊢
  generalize w.passes i = event at works ⊢
  cases works with
  | pass =>
    rw [Handler.dispatch_calls]
    cases w.handler.callbacks <;> rfl
  | refuse | close | lose | abort => simp [Handler.fail_events]
  | _ => simp

theorem calls_events (w : Worker) (callbacks : w.handler.callbacks = true) (inputs : List Input) :
    (w.calls inputs).filterMap Call.event? = w.passed inputs := by
  induction inputs generalizing w with
  | nil => rfl
  | cons i rest ih =>
    rw [calls, passed, List.filterMap_append, next_calls, if_pos callbacks,
      ih _ ((w.next_callbacks i).trans callbacks)]

/-- Where the window is managed by the handler itself, only grants change it. -/
theorem next_window_of_automatic (automatic : w.handler.manual = false)
    (grantless : ∀ size, i ≠ .grant size) :
    (w.next i).1.handler.window = w.handler.window := by
  have works := w.works i
  generalize (w.next i).1 = after at works ⊢
  generalize (w.next i).2 = calls at works
  generalize w.passes i = event at works
  cases works with
  | widen => exact absurd rfl (grantless _)
  | _ => simp [Handler.proceed, automatic]

/-- The window is in range, and what a turn has seen of it is still there. -/
structure Metered (w : Worker) : Prop where
  manual : w.handler.manual = true
  bounded : w.handler.window ≤ maxSize
  seen_le : ∀ limit, w.seen = some limit → limit ≤ w.handler.window

theorem initial_metered {window : Nat} (bounded : window ≤ maxSize) (callbacks : Bool) :
    (initial window true callbacks).Metered := by
  refine ⟨rfl, bounded, ?_⟩
  intro limit seen
  cases seen

/-- What is passed on fits into the window, and is taken off it. -/
theorem Metered.next_window (h : w.Metered) (grantless : ∀ size, i ≠ .grant size) :
    delivered (w.passes i).toList + (w.next i).1.handler.window = w.handler.window := by
  have works := w.works i
  generalize (w.next i).1 = after at works ⊢
  generalize (w.next i).2 = calls at works
  generalize w.passes i = event at works ⊢
  cases works with
  | widen => exact absurd rfl (grantless _)
  | @pass limit event after rest within step =>
    have fits := Nat.le_trans (Frame.Decoder.dataLength_le_limit step) (h.seen_le limit within)
    simp only [Option.toList, delivered, Handler.dispatch_window, h.manual, if_true]
    omega
  | _ => simp [delivered, Handler.proceed]

theorem le_saturatingAdd {size more : Nat} (bounded : size ≤ maxSize) :
    size ≤ saturatingAdd size more := by
  unfold saturatingAdd
  omega

theorem Metered.seen_le_next (h : w.Metered) (i : Input) (limit : Nat)
    (seen : (w.next i).1.seen = some limit) : limit ≤ (w.next i).1.handler.window := by
  have works := w.works i
  generalize (w.next i).1 = after at works seen ⊢
  generalize (w.next i).2 = calls at works
  generalize w.passes i = event at works
  cases works with
  | ignore => exact h.seen_le limit seen
  | widen => exact Nat.le_trans (h.seen_le limit seen) (le_saturatingAdd h.bounded)
  | look =>
    obtain rfl := Option.some.inj seen
    simp [Handler.limit, h.manual]
  | _ => cases seen

theorem Metered.next (h : w.Metered) (i : Input) : (w.next i).1.Metered := by
  refine ⟨(w.next_manual i).trans h.manual, ?_, h.seen_le_next i⟩
  by_cases grant : ∃ size, i = .grant size
  · obtain ⟨size, rfl⟩ := grant
    rw [next_grant]
    exact Nat.min_le_right ..
  · have spent := h.next_window (not_exists.mp grant)
    have bounded := h.bounded
    omega

theorem Metered.run (h : w.Metered) (inputs : List Input) : (w.run inputs).Metered := by
  induction inputs using List.reverseRecOn with
  | nil => exact h
  | append_singleton inputs i ih =>
    rw [run_concat]
    exact ih.next i

/-- No grant of a run was cut short by the largest size. -/
def Unsaturated (w : Worker) (inputs : List Input) : Prop :=
  ∀ before size later, inputs = before ++ .grant size :: later →
    (w.run before).handler.window + size ≤ maxSize

theorem Unsaturated.of_append {first rest : List Input} (h : w.Unsaturated (first ++ rest)) :
    w.Unsaturated first := by
  intro before size later split
  apply h before size (later ++ rest)
  rw [split, List.append_assoc]
  rfl

/-- What has been passed on and what is left never exceed what was there and what was granted. -/
theorem Metered.balance (h : w.Metered) (inputs : List Input) :
    delivered (w.passed inputs) + (w.run inputs).handler.window ≤
        w.handler.window + granted inputs ∧
      (w.Unsaturated inputs → delivered (w.passed inputs) + (w.run inputs).handler.window =
        w.handler.window + granted inputs) := by
  induction inputs using List.reverseRecOn with
  | nil => simp [passed, delivered, granted, Worker.run]
  | append_singleton inputs i ih =>
    obtain ⟨bound, equal⟩ := ih
    rw [passed_concat, delivered_append, granted_append, run_concat]
    by_cases grant : ∃ size, i = .grant size
    · obtain ⟨size, rfl⟩ := grant
      have silent : (Worker.run w inputs).passes (.grant size) = none := by
        unfold passes
        split
        · rename_i turn
          cases turn
        · rfl
      rw [next_grant, silent]
      simp only [Option.toList, delivered, granted, Handler.grant, saturatingAdd]
      constructor
      · omega
      · intro unsaturated
        have room := unsaturated inputs size [] rfl
        have before := equal unsaturated.of_append
        omega
    · have spent := (h.run inputs).next_window (not_exists.mp grant)
      have nothing : granted [i] = 0 := by
        cases i with
        | grant size => exact absurd ⟨size, rfl⟩ grant
        | _ => rfl
      rw [nothing]
      constructor
      · omega
      · intro unsaturated
        have before := equal unsaturated.of_append
        omega

/-- What is no payload of a data frame waits for no window. -/
theorem passes_free {limit : Nat} {event : Frame.Event} (within : w.seen = some limit)
    (reported : ((w.handler.decoder.withLimit maxSize).decode w.handler.buffer).outcome =
      .event event) (free : event.dataLength = 0) : w.passes .turn = some event := by
  simp only [passes, within, Frame.Decoder.decode_free reported free]

end Worker

/-- In manual mode, however grants of window fall between and into the turns of a handler: data
payload is passed on only as far as there is window for it, and taken off the window exactly. All
that was passed on and what is left never exceed the first window and the grants, and equal them
unless a grant was cut short at the largest size. Nothing but grants and data payload changes the
window, and what is no data payload is passed on whatever window there is. In automatic mode
nothing but grants changes the window. -/
theorem read_window_safe (window : Nat) (bounded : window ≤ maxSize) (callbacks : Bool)
    (inputs : List Input) :
    (let start := Worker.initial window true callbacks
      let w := start.run inputs
      w.handler.window ≤ maxSize ∧
      delivered (start.passed inputs) + w.handler.window ≤ window + granted inputs ∧
      (start.Unsaturated inputs →
        delivered (start.passed inputs) + w.handler.window = window + granted inputs) ∧
      (∀ frame data, w.passes .turn = some (.payload frame data) → frame.opcode.isData = true →
        data.length ≤ w.handler.window ∧
        (w.next .turn).1.handler.window = w.handler.window - data.length) ∧
      (∀ size, (w.next (.grant size)).1.handler.window = min (w.handler.window + size) maxSize) ∧
      (∀ i, (∀ size, i ≠ .grant size) → (∀ event, w.passes i = some event → event.dataLength = 0) →
        (w.next i).1.handler.window = w.handler.window) ∧
      (∀ limit event, w.seen = some limit →
        ((w.handler.decoder.withLimit maxSize).decode w.handler.buffer).outcome = .event event →
        event.dataLength = 0 → w.passes .turn = some event) ∧
      (callbacks = true → (start.calls inputs).filterMap Call.event? = start.passed inputs)) ∧
    ∀ i, (∀ size, i ≠ .grant size) →
      let w := (Worker.initial window false callbacks).run inputs
      (w.next i).1.handler.window = w.handler.window := by
  constructor
  · intro start w
    have metered : start.Metered := Worker.initial_metered bounded callbacks
    have now : w.Metered := metered.run inputs
    obtain ⟨bound, equal⟩ := metered.balance inputs
    refine ⟨now.bounded, bound, equal, ?_, ?_, ?_, ?_, ?_⟩
    · intro frame data passes isData
      have spent := now.next_window (i := .turn) (by simp)
      rw [passes] at spent
      simp only [Option.toList, delivered, Frame.Event.dataLength, isData, if_true] at spent
      omega
    · intro size
      rw [Worker.next_grant]
      rfl
    · intro i grantless free
      have spent := now.next_window grantless
      cases passes : w.passes i with
      | none =>
        rw [passes] at spent
        simpa [delivered] using spent
      | some event =>
        rw [passes] at spent
        simpa [delivered, free event passes] using spent
    · intro limit event seen reported free
      exact Worker.passes_free seen reported free
    · intro called
      exact start.calls_events called inputs
  · intro i grantless w
    apply Worker.next_window_of_automatic _ grantless
    exact Worker.run_manual _ inputs

/-- A text of two octets meets a window of one, and a grant comes in the middle of a turn. -/
def amidTurn : List Input :=
  [.turn, .turn, .read [0x81, 0x02, 0x68, 0x69], .turn, .turn, .answer true, .turn, .grant 5]

theorem grant_amid_turn :
    1 ≤ maxSize ∧
      let w := (Worker.initial 1 true true).run amidTurn
      w.passes .turn = some (.payload ⟨.text, true, 2⟩ [0x68]) ∧ w.handler.window = 6 ∧
      (w.next .turn).1.handler.window = 5 := by
  obtain ⟨⟨-, -, -, payload, -⟩, -⟩ := read_window_safe 1 (by decide) true amidTurn
  exact ⟨by decide, by decide, by decide,
    (payload ⟨.text, true, 2⟩ [0x68] (by decide) rfl).2.trans (by decide)⟩

end WebSocketClient.Framing
